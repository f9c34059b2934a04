import Reminders.Proofs.Scheduler.AtMostOnce
import Reminders.Proofs.Scheduler.Round
import Reminders.Proofs.Store.Integrity
import Reminders.Scheduler.Use

/-!
The integrity of a store in use.

Whatever happens to a store comes down to statements one after the other: the calls of a script, the
turns of a tick, and what others do in between. So what statements keep is kept by everything.

* `Scheduler.Use.changes`: every use of a store is a chain of statements.
* `Scheduler.integrity`
-/

namespace Reminders

open Store

variable {s s' : Store}

/-! ### Calls and scripts -/

/-- A call is a statement, or it leaves the store as it is. -/
theorem Store.changes_of_answer {call : StoreCall} {reply : call.Reply}
    (answered : s.answer call = .ok (reply, s')) : s.Changes s' := by
  cases call with
  | updateNextOccurrence id date =>
    cases answered
    exact .single ⟨.updateNextOccurrence id date, none, rfl⟩
  | upsertPolicy policy =>
    refine .single ⟨.upsertPolicy policy, none, ?_⟩
    exact except_map_eq_ok_iff.mpr ⟨s', eq_ok_of_map_unit_eq_ok answered, rfl⟩
  | insertLog entry =>
    refine .single ⟨.insertLog entry, none, ?_⟩
    exact except_map_eq_ok_iff.mpr ⟨s', eq_ok_of_map_unit_eq_ok answered, rfl⟩
  | existsSentLog key =>
    cases answered
    exact .refl
  | listUsers | findUserEmail | findOverdue | findNotifiable | findSubscriptions | findChannels
  | findPolicy =>
    obtain ⟨-, rfl⟩ := Script.map_store_eq_ok_iff.mp answered
    exact .refl

namespace Script

theorem changes_run (x : Script α) (desk : Desk) (s : Store) : s.Changes (x.run desk s).2 := by
  induction x generalizing s with
  | done a => exact .refl
  | fail failure => exact .refl
  | ask call next ih =>
    simp only [Script.run]
    cases served : s.serve desk call with
    | error e => exact .refl
    | ok reply =>
      exact (changes_of_answer (answer_eq_of_serve_eq_ok served)).trans (ih reply.1 reply.2)

theorem changes_next {x x' : Script α} {desk : Desk} (stepped : x.next desk s = some (x', s')) :
    s.Changes s' := by
  rcases next_eq_some stepped with ⟨call, next, reply, rfl, answered, rfl⟩ | ⟨failure, rfl, rfl⟩
  · exact changes_of_answer answered
  · exact .refl

end Script

/-! ### All or nothing -/

namespace Script

/-- When the script fails, it has written nothing. -/
def AllOrNothing (x : Script α) : Prop :=
  ∀ desk s e, (x.run desk s).1 = .error e → (x.run desk s).2 = s

/-- One call, after which nothing can fail. -/
theorem allOrNothing_write (c : StoreCall) (f : c.Reply → α) :
    (call c >>= fun reply => pure (f reply)).AllOrNothing := by
  intro desk s e failed
  change (run desk s (.ask c fun reply => .done (f reply))).1 = .error e at failed
  change (run desk s (.ask c fun reply => .done (f reply))).2 = s
  simp only [run] at failed ⊢
  cases served : s.serve desk c with
  | error e => rfl
  | ok reply =>
    rw [served] at failed
    cases failed

theorem allOrNothing_call (c : StoreCall) : (call c).AllOrNothing := allOrNothing_write c id

/-- A query before something that is all or nothing. -/
theorem AllOrNothing.query {c : StoreCall} {f : c.Reply → Script α}
    (reads : ∀ (s : Store) reply s', s.answer c = .ok (reply, s') → s' = s)
    (rest : ∀ reply, (f reply).AllOrNothing) : (call c >>= f).AllOrNothing := by
  intro desk s e failed
  change (run desk s (.ask c f)).1 = .error e at failed
  change (run desk s (.ask c f)).2 = s
  simp only [run] at failed ⊢
  cases served : s.serve desk c with
  | error e => rfl
  | ok p =>
    obtain ⟨reply, s'⟩ := p
    cases reads s reply s' (answer_eq_of_serve_eq_ok served)
    rw [served] at failed
    exact rest reply desk s e failed

theorem allOrNothing_updatePolicy (user : Int) (update : PolicyUpdate) :
    (updatePolicy user update).AllOrNothing := by
  unfold updatePolicy
  cases update.leadTime with
  | error e => exact fun _ _ _ _ => rfl
  | ok days =>
    refine AllOrNothing.query (fun s stored s' answered => ?_) fun stored => ?_
    · exact (map_store_eq_ok_iff.mp answered).2
    · exact allOrNothing_write _ _

end Script

/-! ### Operations -/

theorem Operation.changes (operation : Operation) (desk : Desk) (s : Store) :
    s.Changes (operation.perform desk s) := by
  cases operation with
  | createUser email =>
    refine after_of .refl fun id s' created => ?_
    exact .single ⟨.createUser email, some id, except_map_eq_ok_iff.mpr ⟨_, created, rfl⟩⟩
  | insertSubscription sub =>
    refine after_of .refl fun id s' inserted => ?_
    exact .single ⟨.insertSubscription sub, some id, except_map_eq_ok_iff.mpr ⟨_, inserted, rfl⟩⟩
  | insertChannel user type config template =>
    refine after_of .refl fun id s' inserted => ?_
    refine .single ⟨.insertChannel user type config template, some id, ?_⟩
    exact except_map_eq_ok_iff.mpr ⟨_, inserted, rfl⟩
  | setChannelEnabled id enabled =>
    exact .single ⟨.setChannelEnabled id enabled, none, rfl⟩
  | upsertPolicy policy =>
    refine after_of .refl fun u s' written => ?_
    have answered : s.answer (.upsertPolicy policy) = .ok (u, s') := written
    exact changes_of_answer answered
  | updatePolicy user update => exact Script.changes_run _ desk s
  | summary user today => exact Script.changes_run _ desk s
  | reopen =>
    rw [Operation.perform, s.reopened_eq]

/-! ### The work of the scheduler -/

variable {t : Turn} {world world' : World}

theorem Job.changes_record (j : Job) (outcome : Except ChannelError Unit) (desk : Desk)
    (now : Instant) (s : Store) : s.Changes (j.record outcome desk now s).2 := by
  unfold record
  split
  · rename_i reply after served
    exact changes_of_answer (answer_eq_of_serve_eq_ok served)
  · exact .refl

theorem Crew.Move.changes {timeout : Nat} {a b : Crew × World} (move : Move timeout t a b) :
    a.2.store.Changes b.2.store := by
  rcases move.passes_or_settles with ⟨events, same, -⟩ | ⟨job, outcome, -, -, -, -, -, same⟩
  · rw [same]
  · rw [same]
    exact job.changes_record outcome t.desk t.now a.2.store

theorem UserTask.changes_step {e : Engine} {task task' : UserTask}
    (stepped : task.step e t world = some (task', world')) :
    world.store.Changes world'.store := by
  cases UserTask.step_eq_some_iff.mp stepped with
  | answer served => exact changes_of_answer (answer_eq_of_serve_eq_ok served)
  | refuse => exact .refl
  | fail => exact .refl
  | dispatch => exact .refl
  | deliver busy move => exact move.changes
  | report => exact .refl

theorem Work.changes_step {work work' : Work} (stepped : work.step t world = some (work', world')) :
    world.store.Changes world'.store := by
  cases work with
  | tick e today round =>
    obtain ⟨⟨round', after⟩, moved, same⟩ := Option.map_eq_some_iff.mp stepped
    cases same
    cases Round.step_eq_some_iff.mp moved with
    | take place => exact .refl
    | work place acted => exact UserTask.changes_step acted
    | finish place => exact .refl
  | run e user task =>
    obtain ⟨⟨task', after⟩, moved, same⟩ := Option.map_eq_some_iff.mp stepped
    cases same
    exact UserTask.changes_step moved
  | advance user rest =>
    obtain ⟨⟨rest', store⟩, moved, same⟩ := Option.map_eq_some_iff.mp stepped
    cases same
    exact Script.changes_next moved
  | dashboard user rest =>
    obtain ⟨⟨rest', store⟩, moved, same⟩ := Option.map_eq_some_iff.mp stepped
    cases same
    exact Script.changes_next moved

/-! ### Any use -/

theorem Store.changes_execute (s : Store) (refusal : Option String) (statement : Statement) :
    s.Changes (s.execute refusal statement).2 := by
  unfold Store.execute
  split
  · exact .refl
  · split
    · rename_i reply after ran
      exact .single ⟨statement, reply, ran⟩
    · exact .refl

/-- A statement that is refused leaves every table as it was. -/
theorem Store.execute_of_refused {refusal : Option String} {statement : Statement} {e : StoreError}
    (refused : (s.execute refusal statement).1 = .error e) :
    (s.execute refusal statement).2 = s := by
  unfold Store.execute at refused ⊢
  cases refusal with
  | some reason => rfl
  | none =>
    cases ran : statement.run s with
    | error e => rfl
    | ok p =>
      simp only [ran] at refused
      cases refused

namespace Scheduler

variable {past now next : Scheduler} {table : StoredTable} {id : Int}

theorem Step.changes (step : Step now next) : now.world.store.Changes next.world.store := by
  cases step with
  | turn t stepped => exact Work.changes_step stepped
  | tick | run | advance | dashboard | stop => exact .refl

/-- **Every use of a store is a chain of statements.** -/
theorem Use.changes (use : Use now next) : now.world.store.Changes next.world.store := by
  cases use with
  | write statement refusal world work => exact world.store.changes_execute refusal statement
  | operate operation desk world work => exact operation.changes desk world.store
  | proceed step => exact step.changes

/-- So is whatever happens to it over any time. -/
theorem changes_of_reached (went : Relation.ReflTransGen Use past now) :
    past.world.store.Changes now.world.store := by
  induction went with
  | refl => exact .refl
  | tail _ use ih => exact ih.trans use.changes

/-- On the way to what there is now, the table has given out the id. -/
def Issued (now : Scheduler) (table : StoredTable) (id : Int) : Prop :=
  ∃ past, Relation.ReflTransGen Use initial past ∧ Relation.ReflTransGen Use past now ∧
    id ∈ past.world.store.ids table

theorem Issued.le_lastId (issued : now.Issued table id) : id ≤ now.world.store.lastId table := by
  obtain ⟨past, -, went, mem⟩ := issued
  exact Int.le_trans (Store.le_lastId mem) ((changes_of_reached went).lastId_le table)

theorem sound_of_reached (reached : Relation.ReflTransGen Use initial now) :
    now.world.store.Sound :=
  Sound.empty.changes (changes_of_reached reached)

/-- **The integrity of a store in use.** Whatever has happened since it was empty, and whatever of
that was refused: subscriptions, channels and policies belong to users that there are, addresses are
different, no user has two policies, and no reminder was sent twice. An id that is given out is larger
than all that the table gave out before, also to rows that are gone. A user goes with all that belongs
to it, while the delivery log stays. A write is refused by the tables when it would break one of their
rules and otherwise not, and one that is refused, by them or beforehand, has changed nothing. -/
theorem integrity (reached : Relation.ReflTransGen Use initial now) :
    now.world.store.Sound ∧
    (∀ (statement : Statement) table id after, statement.issues = some table →
      statement.run now.world.store = .ok (some id, after) →
        (∀ earlier, now.Issued table earlier → earlier < id) ∧
          after.ids table = now.world.store.ids table ++ [id]) ∧
    (∀ user, ∃ after, (Statement.deleteUser user).run now.world.store = .ok (none, after) ∧
      now.world.store.Loses user after) ∧
    (∀ statement : Statement,
      (∃ e, statement.run now.world.store = .error e) ↔ statement.Breaks now.world.store) ∧
    (∀ refusal statement e, (now.world.store.execute refusal statement).1 = .error e →
      (now.world.store.execute refusal statement).2 = now.world.store) ∧
    (∀ call, (Script.call call).AllOrNothing) ∧
    ∀ (user : Int) (update : PolicyUpdate), (Script.updatePolicy user update).AllOrNothing := by
  have sound := sound_of_reached reached
  refine ⟨sound, ?_, ?_, ?_, ?_, ?_, ?_⟩
  · intro statement table id after issued ran
    obtain ⟨rfl, ids⟩ := Statement.ids_of_issues issued ran
    exact ⟨fun earlier before => Int.lt_add_one_of_le before.le_lastId, ids⟩
  · exact fun user => ⟨_, rfl, now.world.store.loses_deleteUser user⟩
  · exact fun statement => Statement.refused_iff sound
  · intro refusal statement e refused
    exact execute_of_refused refused
  · exact Script.allOrNothing_call
  · exact Script.allOrNothing_updatePolicy

/-- Statements follow each other. -/
theorem reaches_writes (statements : List Statement) (s : Store) :
    Relation.ReflTransGen Use ⟨⟨s, []⟩, none⟩
      ⟨⟨statements.foldl (fun s statement => (s.execute none statement).2) s, []⟩, none⟩ := by
  induction statements generalizing s with
  | nil => exact .refl
  | cons statement rest ih => exact .head (.write statement none _ _) (ih _)

end Scheduler

namespace Sample

/-- The entry of a reminder that was sent. -/
def sentEntry : LogEntry := ⟨1, 1, .ntfy, today, .sent, none, noon⟩

/-- What is written about a user. The log refuses the second entry. -/
def writes : List Statement :=
  [.createUser "ada@example.org", .insertSubscription subscription,
    .insertChannel 1 .ntfy .null none, .upsertPolicy ⟨1, 3, true⟩, .insertLog sentEntry,
    .insertLog sentEntry]

/-- The store with what is written about the user. -/
def written : Store := writes.foldl (fun s statement => (s.execute none statement).2) .empty

end Sample

namespace Scheduler

/-- A user who is removed and added again, under another id. -/
theorem integrity_sample :
    ∃ past now, Relation.ReflTransGen Use initial past ∧ Relation.ReflTransGen Use past now ∧
      (past.world.store.ids .users = [1] ∧ past.world.store.ids .subscriptions = [1] ∧
        past.world.store.ids .policies = [1] ∧ past.world.store.ids .channels = [1] ∧
        past.world.store.ids .logs = [1]) ∧
      (now.world.store.ids .users = [] ∧ now.world.store.ids .subscriptions = [] ∧
        now.world.store.ids .policies = [] ∧ now.world.store.ids .channels = [] ∧
        now.world.store.ids .logs = [1]) ∧
      now.world.store.Sound ∧
      ∃ id after, (Statement.createUser "ada@example.org").run now.world.store =
        .ok (some id, after) ∧ 1 < id ∧ after.ids .users = [id] := by
  have filled : Sample.written.ids .users = [1] ∧ Sample.written.ids .subscriptions = [1] ∧
      Sample.written.ids .policies = [1] ∧ Sample.written.ids .channels = [1] ∧
      Sample.written.ids .logs = [1] := by decide +kernel
  have emptied : (Sample.written.deleteUser 1).ids .users = [] ∧
      (Sample.written.deleteUser 1).ids .subscriptions = [] ∧
      (Sample.written.deleteUser 1).ids .policies = [] ∧
      (Sample.written.deleteUser 1).ids .channels = [] ∧
      (Sample.written.deleteUser 1).ids .logs = [1] := by decide +kernel
  have before : Relation.ReflTransGen Use initial ⟨⟨Sample.written, []⟩, none⟩ := by
    rw [Sample.written]
    exact reaches_writes Sample.writes .empty
  generalize Sample.written = s at filled emptied before
  have removed : Relation.ReflTransGen Use ⟨⟨s, []⟩, none⟩ ⟨⟨s.deleteUser 1, []⟩, none⟩ :=
    reaches_writes [.deleteUser 1] s
  obtain ⟨sound, fresh, -⟩ := integrity (before.trans removed)
  have unused : ∀ r ∈ (s.deleteUser 1).users.rows, r.cell .email ≠ .text "ada@example.org" := by
    rw [List.map_eq_nil_iff.mp emptied.1]
    exact fun _ mem => absurd mem List.not_mem_nil
  have ran : (Statement.createUser "ada@example.org").run (s.deleteUser 1) =
      .ok (some (s.deleteUser 1).users.nextId, _) :=
    except_map_eq_ok_iff.mpr ⟨_, createUser_eq_ok_iff.mpr ⟨unused, rfl, rfl⟩, rfl⟩
  obtain ⟨larger, ids⟩ := fresh _ .users _ _ rfl ran
  refine ⟨_, _, before, removed, filled, emptied, sound, _, _, ran, ?_, ?_⟩
  · refine larger 1 ⟨_, before, removed, ?_⟩
    rw [filled.1]
    exact List.mem_singleton_self 1
  · rw [ids, emptied.1]
    rfl

end Scheduler

end Reminders
