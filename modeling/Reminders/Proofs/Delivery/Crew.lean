import Mathlib.Algebra.BigOperators.Group.List.Basic
import Mathlib.Logic.Relation
import Reminders.Delivery.Crew
import Reminders.Proofs.Lists
import Reminders.Proofs.Store.Log

/-!
Crews.

A run is a chain of turns, whoever takes them. `Crew.Move` lists what a turn of a crew can do, and
`Crew.Progress` says what a crew has done since it started: which jobs it has called the sender with,
which of them were answered, and which rows it has put into the log.

* `Crew.step_eq_some_iff`: a step is one of the five moves.
* `Crew.Progress.move`: every move keeps the account.
* `Crew.exists_progress`: the account of a whole run.
-/

namespace Reminders

/-- Some turn leads from one state to the next. -/
def Leads (step : Turn → σ → World → Option (σ × World)) (a b : σ × World) : Prop :=
  ∃ t, step t a.1 a.2 = some b

/-- Some turns, one after the other, lead from one state to another. -/
abbrev Runs (step : Turn → σ → World → Option (σ × World)) : σ × World → σ × World → Prop :=
  Relation.ReflTransGen (Leads step)

/-! ### What has passed -/

/-- The jobs that the sender was called with, in order. -/
def callsOf (events : List Event) : List Job :=
  events.filterMap fun
    | .called job => some job
    | .returned _ _ => none

/-- The jobs that the sender has answered, in order, with the answers. -/
def answersOf (events : List Event) : List (Job × Except ChannelError Unit) :=
  events.filterMap fun
    | .called _ => none
    | .returned job outcome => some (job, outcome)

@[simp] theorem callsOf_append (a b : List Event) : callsOf (a ++ b) = callsOf a ++ callsOf b :=
  List.filterMap_append

@[simp] theorem answersOf_append (a b : List Event) :
    answersOf (a ++ b) = answersOf a ++ answersOf b :=
  List.filterMap_append

@[simp] theorem callsOf_called (job : Job) : callsOf [.called job] = [job] := rfl

@[simp] theorem callsOf_returned (job : Job) (outcome : Except ChannelError Unit) :
    callsOf [.returned job outcome] = [] := rfl

@[simp] theorem answersOf_called (job : Job) : answersOf [.called job] = [] := rfl

@[simp] theorem answersOf_returned (job : Job) (outcome : Except ChannelError Unit) :
    answersOf [.returned job outcome] = [(job, outcome)] := rfl

@[simp] theorem World.note_store (w : World) (e : Event) : (w.note e).store = w.store := rfl

@[simp] theorem World.note_events (w : World) (e : Event) :
    (w.note e).events = w.events ++ [e] := rfl

/-! ### Counts -/

@[ext] theorem DeliveryStats.ext {a b : DeliveryStats} (sent : a.sent = b.sent)
    (failed : a.failed = b.failed) (logErrors : a.logErrors = b.logErrors) : a = b := by
  cases a; cases b; simp_all

namespace DeliveryStats

@[simp] theorem add_sent (a b : DeliveryStats) : (a + b).sent = a.sent + b.sent := rfl

@[simp] theorem add_failed (a b : DeliveryStats) : (a + b).failed = a.failed + b.failed := rfl

@[simp] theorem add_logErrors (a b : DeliveryStats) :
    (a + b).logErrors = a.logErrors + b.logErrors := rfl

instance : Zero DeliveryStats := ⟨.zero⟩

instance : AddCommMonoid DeliveryStats where
  add_assoc a b c := by ext <;> exact Nat.add_assoc ..
  zero_add a := by ext <;> exact Nat.zero_add _
  add_zero a := rfl
  add_comm a b := by ext <;> exact Nat.add_comm ..
  nsmul := nsmulRec

@[simp] theorem zero_sent : (0 : DeliveryStats).sent = 0 := rfl

@[simp] theorem zero_failed : (0 : DeliveryStats).failed = 0 := rfl

@[simp] theorem zero_logErrors : (0 : DeliveryStats).logErrors = 0 := rfl

/-- A job is counted as sent or as failed, and not as both. -/
theorem ofOutcome_sent_add_failed (outcome : Except ChannelError Unit) (refused : Bool) :
    (ofOutcome outcome refused).sent + (ofOutcome outcome refused).failed = 1 := by
  cases outcome <;> rfl

theorem ofOutcome_logErrors (outcome : Except ChannelError Unit) (refused : Bool) :
    (ofOutcome outcome refused).logErrors = if refused then 1 else 0 := by
  cases outcome <;> rfl

end DeliveryStats

/-! ### Entries -/

namespace Job

@[simp] theorem entry_key (j : Job) (outcome : Except ChannelError Unit) (now : Instant) :
    (j.entry outcome now).key = j.key := rfl

theorem entry_status_eq_sent_iff {j : Job} {outcome : Except ChannelError Unit} {now : Instant} :
    (j.entry outcome now).status = .sent ↔ outcome = .ok () := by
  cases outcome with
  | ok u => exact ⟨fun _ => rfl, fun _ => rfl⟩
  | error e => exact ⟨nofun, nofun⟩

/-- The log refuses the entry of a job. -/
def Refused (j : Job) (outcome : Except ChannelError Unit) (desk : Desk) (now : Instant)
    (s : Store) : Prop :=
  desk (.insertLog (j.entry outcome now)) ≠ none ∨ (outcome = .ok () ∧ s.WasSent j.key)

theorem record_of_refused {j : Job} {outcome : Except ChannelError Unit} {desk : Desk}
    {now : Instant} {s : Store} (h : j.Refused outcome desk now s) :
    j.record outcome desk now s = (.ofOutcome outcome true, s) := by
  unfold record Store.serve
  cases asked : desk (.insertLog (j.entry outcome now)) with
  | some reason => rfl
  | none =>
    obtain ⟨sent, before⟩ := h.resolve_left fun h => h asked
    have refused : ∀ s', s.insertLog (j.entry outcome now) ≠ .ok s' := fun s' h =>
      (Store.insertLog_eq_ok_iff.mp h).1 ⟨entry_status_eq_sent_iff.mpr sent, before⟩
    simp only [Store.answer]
    cases written : s.insertLog (j.entry outcome now) with
    | ok s' => exact absurd written (refused s')
    | error e => rfl

theorem record_of_not_refused {j : Job} {outcome : Except ChannelError Unit} {desk : Desk}
    {now : Instant} {s : Store} (h : ¬j.Refused outcome desk now s) :
    j.record outcome desk now s =
      (.ofOutcome outcome false, s.logged (j.entry outcome now)) := by
  obtain ⟨asked, fresh⟩ := not_or.mp h
  have written : s.insertLog (j.entry outcome now) = .ok (s.logged (j.entry outcome now)) :=
    Store.insertLog_eq_ok_iff.mpr
      ⟨fun sent => fresh ⟨entry_status_eq_sent_iff.mp sent.1, sent.2⟩, rfl⟩
  simp only [record, Store.serve, Classical.not_not.mp asked, Store.answer, written, Except.map]

end Job

/-! ### Moves -/

namespace Crew

/-- What a crew may do at a turn: the worker whose turn it is takes the first job, calls the sender,
hears its answer, or records what it has heard, which the log may refuse. -/
inductive Move (timeout : Nat) (t : Turn) : Crew × World → Crew × World → Prop
  | take {before after stats job queue world} (place : before.length = t.jobWorker) :
      Move timeout t (⟨job :: queue, before ++ ⟨.waiting, stats⟩ :: after⟩, world)
        (⟨queue, before ++ ⟨.holding job, stats⟩ :: after⟩, world)
  | call {before after stats job queue world} (place : before.length = t.jobWorker) :
      Move timeout t (⟨queue, before ++ ⟨.holding job, stats⟩ :: after⟩, world)
        (⟨queue, before ++ ⟨.sending job, stats⟩ :: after⟩, world.note (.called job))
  | hear {before after stats job queue world outcome} (place : before.length = t.jobWorker)
      (answered : outcome = job.outcome t.sender timeout) :
      Move timeout t (⟨queue, before ++ ⟨.sending job, stats⟩ :: after⟩, world)
        (⟨queue, before ++ ⟨.sent job outcome, stats⟩ :: after⟩,
          world.note (.returned job outcome))
  | record {before after stats job queue world outcome} (place : before.length = t.jobWorker)
      (admitted : ¬job.Refused outcome t.desk t.now world.store) :
      Move timeout t (⟨queue, before ++ ⟨.sent job outcome, stats⟩ :: after⟩, world)
        (⟨queue, before ++ ⟨.waiting, stats + .ofOutcome outcome false⟩ :: after⟩,
          ⟨world.store.logged (job.entry outcome t.now), world.events⟩)
  | refuse {before after stats job queue world outcome} (place : before.length = t.jobWorker)
      (refused : job.Refused outcome t.desk t.now world.store) :
      Move timeout t (⟨queue, before ++ ⟨.sent job outcome, stats⟩ :: after⟩, world)
        (⟨queue, before ++ ⟨.waiting, stats + .ofOutcome outcome true⟩ :: after⟩, world)

/-- A step is one of the moves. -/
theorem step_eq_some_iff {timeout : Nat} {t : Turn} {c : Crew} {world : World} {b : Crew × World} :
    c.step timeout t world = some b ↔ Move timeout t (c, world) b := by
  obtain ⟨queue, workers⟩ := c
  constructor
  · intro h
    unfold step at h
    cases found : workers[t.jobWorker]? with
    | none => simp only [found] at h; cases h
    | some w =>
      simp only [found] at h
      obtain ⟨before, after, rfl, place⟩ := exists_eq_append_of_getElem? found
      rw [← place] at h
      simp only [set_append_cons] at h
      obtain ⟨phase, stats⟩ := w
      cases phase with
      | waiting =>
        cases queue with
        | nil => cases h
        | cons job queue => cases h; exact .take place
      | holding job => cases h; exact .call place
      | sending job => cases h; exact .hear place rfl
      | sent job outcome =>
        by_cases refused : job.Refused outcome t.desk t.now world.store
        · simp only [JobWorker.step, Job.record_of_refused refused] at h
          cases h
          exact .refuse place refused
        · simp only [JobWorker.step, Job.record_of_not_refused refused] at h
          cases h
          exact .record place refused
  · intro h
    cases h with
    | take place => simp [step, ← place, JobWorker.step]
    | call place => simp [step, ← place, JobWorker.step]
    | hear place answered => simp [step, ← place, JobWorker.step, answered]
    | record place admitted =>
      simp [step, ← place, JobWorker.step, Job.record_of_not_refused admitted]
    | refuse place refused =>
      simp [step, ← place, JobWorker.step, Job.record_of_refused refused]

/-! ### The account of a crew -/

theorem stats_eq_sum (c : Crew) : c.stats = (c.workers.map (·.stats)).sum := by
  have from_total : ∀ (workers : List JobWorker) (total : DeliveryStats),
      workers.foldl (fun total w => total + w.stats) total =
        total + (workers.map (·.stats)).sum := by
    intro workers
    induction workers with
    | nil => intro total; rfl
    | cons w rest ih =>
      intro total
      rw [List.foldl_cons, ih, List.map_cons, List.sum_cons, add_assoc]
  rw [stats, from_total]
  exact zero_add _

/-- The counts of a crew grow by what one worker counts. -/
theorem stats_place (queue queue' : List Job) (before after : List JobWorker)
    (phase phase' : JobPhase) (stats more : DeliveryStats) :
    (⟨queue', before ++ ⟨phase', stats + more⟩ :: after⟩ : Crew).stats =
      (⟨queue, before ++ ⟨phase, stats⟩ :: after⟩ : Crew).stats + more := by
  simp only [stats_eq_sum, List.map_append, List.map_cons, List.sum_append, List.sum_cons]
  rw [add_right_comm stats more, ← add_assoc, ← add_assoc]

/-- The counts of a crew stay when no worker counts anything. -/
theorem stats_phase (queue queue' : List Job) (before after : List JobWorker)
    (phase phase' : JobPhase) (stats : DeliveryStats) :
    (⟨queue', before ++ ⟨phase', stats⟩ :: after⟩ : Crew).stats =
      (⟨queue, before ++ ⟨phase, stats⟩ :: after⟩ : Crew).stats := by
  simp only [stats_eq_sum, List.map_append, List.map_cons]

end Crew

namespace JobPhase

/-- The job that is taken and that the sender was not called with. -/
@[simp] def taken : JobPhase → List Job
  | .holding job => [job]
  | .waiting | .sending _ | .sent _ _ => []

/-- The job that the sender was called with and has not answered. -/
@[simp] def asked : JobPhase → List Job
  | .sending job => [job]
  | .waiting | .holding _ | .sent _ _ => []

/-- The answer that is not recorded yet. -/
@[simp] def heard : JobPhase → List (Job × Except ChannelError Unit)
  | .sent job outcome => [(job, outcome)]
  | .waiting | .holding _ | .sending _ => []

end JobPhase

namespace Crew

/-- What the workers have in hand, by what each has in its phase. -/
def held (of : JobPhase → List α) (c : Crew) : List α := c.workers.flatMap (of ·.phase)

/-- The jobs that are taken and that the sender was not called with. -/
abbrev taken (c : Crew) : List Job := c.held JobPhase.taken

/-- The jobs that the sender was called with and has not answered. -/
abbrev asked (c : Crew) : List Job := c.held JobPhase.asked

/-- The answers that are not recorded yet. -/
abbrev heard (c : Crew) : List (Job × Except ChannelError Unit) := c.held JobPhase.heard

/-- The jobs that the sender was not called with yet. -/
def uncalled (c : Crew) : List Job := c.taken ++ c.queue

theorem held_place (of : JobPhase → List α) (queue : List Job) (before after : List JobWorker)
    (w : JobWorker) :
    held of ⟨queue, before ++ w :: after⟩ =
      before.flatMap (of ·.phase) ++ (of w.phase ++ after.flatMap (of ·.phase)) := by
  simp only [held, List.flatMap_append, List.flatMap_cons]

/-- Workers that wait have nothing in hand. -/
theorem inHand_eq_nil {c : Crew} (waiting : ∀ w ∈ c.workers, w.phase = .waiting) :
    c.taken = [] ∧ c.asked = [] ∧ c.heard = [] := by
  have nothing {α : Type} {of : JobPhase → List α} (none : of .waiting = []) : c.held of = [] := by
    apply List.flatMap_eq_nil_iff.mpr
    intro w mem
    rw [waiting w mem, none]
  exact ⟨nothing rfl, nothing rfl, nothing rfl⟩

theorem waiting_start (concurrency : Nat) (jobs : List Job) :
    ∀ w ∈ (start concurrency jobs).workers, w.phase = .waiting := by
  intro w mem
  rw [List.eq_of_mem_replicate mem]
  rfl

/-- A crew that is done has called the sender with all its jobs. -/
theorem uncalled_eq_nil {c : Crew} (ended : c.IsOver) : c.uncalled = [] := by
  rw [uncalled, (inHand_eq_nil ended.2).1, ended.1]
  rfl

theorem uncalled_start (concurrency : Nat) (jobs : List Job) :
    (start concurrency jobs).uncalled = jobs := by
  rw [uncalled, (inHand_eq_nil (waiting_start _ _)).1]
  rfl

theorem stats_start (concurrency : Nat) (jobs : List Job) : (start concurrency jobs).stats = 0 := by
  rw [stats_eq_sum]
  exact sum_map_replicate _ _ _ rfl

/-- What a crew has done since it started with some jobs on some world: the events that have passed
and the rows that it has put into the log. -/
structure Progress (jobs : List Job) (start : World) (c : Crew) (world : World)
    (events : List Event) (rows : List (Row LogColumn)) : Prop where
  events_eq : world.events = start.events ++ events
  store_eq : world.store = { start.store with logs := world.store.logs }
  rows_eq : world.store.logs.rows = start.store.logs.rows ++ rows
  /-- The sender is called with each job once at most. -/
  calls : (callsOf events ++ c.uncalled).Perm jobs
  /-- Each call is answered once at most. -/
  answers : ((answersOf events).map Prod.fst ++ c.asked).Perm (callsOf events)
  /-- Each answer is counted once. -/
  counted : (answersOf events).length = c.stats.sent + c.stats.failed + c.heard.length
  logged : rows.length + c.stats.logErrors = c.stats.sent + c.stats.failed
  owners : ∀ r ∈ rows, ∃ j ∈ jobs, r.cell .userId = .integer j.userId
  /-- The answers in hand are among those that have passed. -/
  heard : ∀ a ∈ c.heard, a ∈ answersOf events
  /-- The log says only of what was sent that it was sent. -/
  truthful : ∀ key, world.store.WasSent key →
    start.store.WasSent key ∨ ∃ job, (job, .ok ()) ∈ answersOf events ∧ job.key = key
  /-- Unless the log has refused an entry, it says of all that was sent that it was sent. -/
  complete : c.stats.logErrors = 0 → ∀ job, (job, .ok ()) ∈ answersOf events →
    world.store.WasSent job.key ∨ (job, .ok ()) ∈ c.heard

theorem progress_start (concurrency : Nat) (jobs : List Job) (world : World) :
    Progress jobs world (start concurrency jobs) world [] [] := by
  obtain ⟨-, asked, heard⟩ := inHand_eq_nil (waiting_start concurrency jobs)
  refine ⟨(List.append_nil _).symm, rfl, (List.append_nil _).symm, ?_, ?_, ?_, ?_, nofun, ?_,
    fun _ => .inl, fun _ _ h => absurd h List.not_mem_nil⟩
  · rw [uncalled_start]; exact .refl _
  · rw [asked]; exact .refl _
  · rw [heard, stats_start]; rfl
  · simp [stats_start]
  · rw [heard]; exact fun _ h => absurd h List.not_mem_nil

section

variable {jobs queue : List Job} {start world : World} {before after : List JobWorker}
  {stats : DeliveryStats} {job : Job} {outcome : Except ChannelError Unit} {events : List Event}
  {rows : List (Row LogColumn)}

/-- A job that a worker takes is one that the sender was not called with, as before. -/
theorem uncalled_take (job : Job) (queue : List Job) (before after : List JobWorker)
    (stats : DeliveryStats) :
    (uncalled ⟨queue, before ++ ⟨.holding job, stats⟩ :: after⟩).Perm
      (uncalled ⟨job :: queue, before ++ ⟨.waiting, stats⟩ :: after⟩) := by
  simp only [uncalled, held_place, JobPhase.taken, List.append_assoc, List.singleton_append,
    List.nil_append]
  exact List.perm_middle.symm.append_left _

/-- A job that the sender is called with is one less. -/
theorem uncalled_call (job : Job) (queue : List Job) (before after : List JobWorker)
    (stats : DeliveryStats) :
    (uncalled ⟨queue, before ++ ⟨.holding job, stats⟩ :: after⟩).Perm
      (job :: uncalled ⟨queue, before ++ ⟨.sending job, stats⟩ :: after⟩) := by
  simp only [uncalled, held_place, JobPhase.taken, List.append_assoc, List.singleton_append,
    List.nil_append]
  exact List.perm_middle

theorem Progress.take
    (account : Progress jobs start ⟨job :: queue, before ++ ⟨.waiting, stats⟩ :: after⟩ world
      events rows) :
    Progress jobs start ⟨queue, before ++ ⟨.holding job, stats⟩ :: after⟩ world events rows := by
  have stats_eq := stats_phase (job :: queue) queue before after .waiting (.holding job) stats
  have heard_eq : Crew.heard ⟨queue, before ++ ⟨.holding job, stats⟩ :: after⟩ =
      Crew.heard ⟨job :: queue, before ++ ⟨.waiting, stats⟩ :: after⟩ := by
    simp only [held_place, JobPhase.heard]
  exact
    { account with
      calls := ((uncalled_take job queue before after stats).append_left _).trans account.calls
      answers := by simpa only [held_place, JobPhase.asked] using account.answers
      counted := by rw [stats_eq, heard_eq]; exact account.counted
      logged := by rw [stats_eq]; exact account.logged
      heard := by rw [heard_eq]; exact account.heard
      complete := by rw [stats_eq, heard_eq]; exact account.complete }

theorem Progress.call
    (account : Progress jobs start ⟨queue, before ++ ⟨.holding job, stats⟩ :: after⟩ world
      events rows) :
    Progress jobs start ⟨queue, before ++ ⟨.sending job, stats⟩ :: after⟩
      (world.note (.called job)) (events ++ [.called job]) rows := by
  obtain ⟨events_eq, store_eq, rows_eq, calls, answers, counted, logged, owners, heard, truthful,
    complete⟩ := account
  have stats_eq := stats_phase queue queue before after (.holding job) (.sending job) stats
  simp only [held_place, JobPhase.asked] at answers
  simp only [held_place, JobPhase.heard] at counted heard complete
  refine
    { events_eq := by rw [World.note_events, events_eq, List.append_assoc]
      store_eq, rows_eq, owners
      calls := ?_
      answers := ?_
      counted := by simpa [held_place, stats_eq] using counted
      logged := by rw [stats_eq]; exact logged
      heard := by simpa [held_place] using heard
      truthful := by simpa using truthful
      complete := by simpa [held_place, stats_eq] using complete }
  · rw [callsOf_append, callsOf_called, List.append_assoc, List.singleton_append]
    exact ((uncalled_call job queue before after stats).symm.append_left _).trans calls
  · simp only [held_place, JobPhase.asked, answersOf_append, answersOf_called,
      List.append_nil, callsOf_append, callsOf_called]
    exact perm_concat_of_middle job answers

theorem Progress.hear
    (account : Progress jobs start ⟨queue, before ++ ⟨.sending job, stats⟩ :: after⟩ world
      events rows) :
    Progress jobs start ⟨queue, before ++ ⟨.sent job outcome, stats⟩ :: after⟩
      (world.note (.returned job outcome)) (events ++ [.returned job outcome]) rows := by
  obtain ⟨events_eq, store_eq, rows_eq, calls, answers, counted, logged, owners, heard, truthful,
    complete⟩ := account
  have stats_eq := stats_phase queue queue before after (.sending job) (.sent job outcome) stats
  simp only [held_place, JobPhase.asked] at answers
  simp only [held_place, JobPhase.heard] at counted heard complete
  refine
    { events_eq := by rw [World.note_events, events_eq, List.append_assoc]
      store_eq, rows_eq, owners
      calls := by simpa [uncalled, held_place] using calls
      answers := ?_
      counted := ?_
      logged := by rw [stats_eq]; exact logged
      heard := ?_
      truthful := fun key sent => ?_
      complete := fun clean other answered => ?_ }
  · simp only [held_place, JobPhase.asked, answersOf_append, answersOf_returned,
      callsOf_append, callsOf_returned, List.append_nil, List.map_append, List.map_singleton]
    exact concat_perm_of_middle job answers
  · simp only [held_place, stats_eq, answersOf_append, answersOf_returned, JobPhase.heard,
      List.length_append, List.length_singleton, List.length_nil] at counted ⊢
    omega
  · intro a mem
    simp only [held_place, JobPhase.heard] at mem
    rw [answersOf_append, answersOf_returned]
    grind
  · rw [answersOf_append]
    exact (truthful key sent).imp_right fun ⟨other, answered, same⟩ =>
      ⟨other, List.mem_append_left _ answered, same⟩
  · rw [stats_eq] at clean
    simp only [held_place, JobPhase.heard, World.note_store]
    rw [answersOf_append, answersOf_returned] at answered
    have earlier := complete clean other
    grind

/-- An answer that is dealt with goes from those in hand into the counts. -/
theorem Progress.settle {c : Crew} (refused : Bool)
    (settled : c = ⟨queue, before ++ ⟨.waiting, stats + .ofOutcome outcome refused⟩ :: after⟩)
    (account : Progress jobs start ⟨queue, before ++ ⟨.sent job outcome, stats⟩ :: after⟩ world
      events rows) :
    ((answersOf events).map Prod.fst ++ c.asked).Perm (callsOf events) ∧
      (answersOf events).length = c.stats.sent + c.stats.failed + c.heard.length ∧
      (rows.length + if refused then 0 else 1) + c.stats.logErrors =
        c.stats.sent + c.stats.failed ∧
      (∀ a ∈ c.heard, a ∈ answersOf events) ∧
      (c.stats.logErrors = 0 → refused = false ∧ ∀ other, (other, .ok ()) ∈ answersOf events →
        world.store.WasSent other.key ∨ (other, .ok ()) = (job, outcome) ∨
          (other, .ok ()) ∈ c.heard) := by
  subst settled
  have stats_eq := stats_place queue queue before after (.sent job outcome) .waiting stats
    (.ofOutcome outcome refused)
  have one := DeliveryStats.ofOutcome_sent_add_failed outcome refused
  have errors := DeliveryStats.ofOutcome_logErrors outcome refused
  obtain ⟨-, -, -, -, answers, counted, logged, -, heard, -, complete⟩ := account
  simp only [held_place, JobPhase.asked] at answers
  simp only [held_place, JobPhase.heard] at counted heard complete
  simp only [held_place, stats_eq, JobPhase.asked, JobPhase.heard,
    DeliveryStats.add_sent, DeliveryStats.add_failed, DeliveryStats.add_logErrors, errors,
    List.length_append, List.length_singleton, List.length_nil] at counted logged ⊢
  refine ⟨answers, by omega, ?_, ?_, ?_⟩
  · cases refused <;> simp only [Bool.false_eq_true, if_true, if_false] <;> omega
  · intro a mem
    exact heard a (by grind)
  · intro clean
    obtain rfl : refused = false := by
      cases refused with
      | false => rfl
      | true => cases clean
    refine ⟨rfl, ?_⟩
    intro other answered
    have earlier := complete (by omega) other answered
    grind

theorem Progress.record {now : Instant}
    (account : Progress jobs start ⟨queue, before ++ ⟨.sent job outcome, stats⟩ :: after⟩ world
      events rows) :
    Progress jobs start
      ⟨queue, before ++ ⟨.waiting, stats + .ofOutcome outcome false⟩ :: after⟩
      ⟨world.store.logged (job.entry outcome now), world.events⟩ events
      (rows ++ [⟨world.store.logs.nextId, (job.entry outcome now).toCells⟩]) := by
  obtain ⟨answers, counted, logged, heard, complete⟩ := account.settle false rfl
  have answered : (job, outcome) ∈ answersOf events := account.heard _ (by simp [held_place])
  have called : job ∈ jobs := account.calls.mem_iff.mp (List.mem_append_left _
    (account.answers.mem_iff.mp (List.mem_append_left _ (List.mem_map_of_mem answered))))
  refine
    { account with
      store_eq := by rw [account.store_eq]; rfl
      calls := by simpa [uncalled, held_place] using account.calls
      rows_eq := by rw [Store.logged_rows, account.rows_eq, List.append_assoc]
      answers, counted, heard
      logged := by rw [List.length_append]; exact logged
      owners := ?_
      truthful := fun key sent => ?_
      complete := fun clean other taken => ?_ }
  · intro r mem
    rcases List.mem_append.mp mem with mem | mem
    · exact account.owners r mem
    · rw [List.mem_singleton.mp mem]
      exact ⟨job, called, rfl⟩
  · rcases Store.wasSent_logged.mp sent with sent | ⟨ok, same⟩
    · exact account.truthful key sent
    · rw [Job.entry_status_eq_sent_iff] at ok
      exact .inr ⟨job, ok ▸ answered, same⟩
  · rw [Store.wasSent_logged, Job.entry_status_eq_sent_iff, Job.entry_key]
    rcases (complete clean).2 other taken with sent | same | heard
    · exact .inl (.inl sent)
    · cases same
      exact .inl (.inr ⟨rfl, rfl⟩)
    · exact .inr heard

theorem Progress.refuse
    (account : Progress jobs start ⟨queue, before ++ ⟨.sent job outcome, stats⟩ :: after⟩ world
      events rows) :
    Progress jobs start ⟨queue, before ++ ⟨.waiting, stats + .ofOutcome outcome true⟩ :: after⟩
      world events rows := by
  obtain ⟨answers, counted, logged, heard, complete⟩ := account.settle true rfl
  exact { account with
    calls := by simpa [uncalled, held_place] using account.calls
    answers, counted, logged, heard
    complete := fun clean => nomatch (complete clean).1 }

end

/-- **Every move keeps the account.** -/
theorem Progress.move {timeout : Nat} {t : Turn} {jobs : List Job} {start : World}
    {a b : Crew × World} {events : List Event} {rows : List (Row LogColumn)}
    (account : Progress jobs start a.1 a.2 events rows) (move : Move timeout t a b) :
    ∃ events' rows', Progress jobs start b.1 b.2 events' rows' := by
  cases move with
  | take => exact ⟨_, _, account.take⟩
  | call => exact ⟨_, _, account.call⟩
  | hear => exact ⟨_, _, account.hear⟩
  | record => exact ⟨_, _, account.record⟩
  | refuse => exact ⟨_, _, account.refuse⟩

/-- **The account of a whole run**, whoever takes the turns. -/
theorem exists_progress {timeout concurrency : Nat} {jobs : List Job} {world : World}
    {b : Crew × World} (ran : Runs (step timeout) (start concurrency jobs, world) b) :
    ∃ events rows, Progress jobs world b.1 b.2 events rows := by
  induction ran with
  | refl => exact ⟨[], [], progress_start concurrency jobs world⟩
  | tail _ led ih =>
    obtain ⟨events, rows, account⟩ := ih
    obtain ⟨t, stepped⟩ := led
    exact account.move (step_eq_some_iff.mp stepped)

section

variable {jobs : List Job} {start world : World} {c : Crew} {events : List Event}
  {rows : List (Row LogColumn)}

/-- When a crew is done, it has called the sender with every job, once. -/
theorem Progress.callsOf_perm (account : Progress jobs start c world events rows)
    (ended : c.IsOver) : (callsOf events).Perm jobs := by
  have calls := account.calls
  rwa [uncalled_eq_nil ended, List.append_nil] at calls

/-- When a crew is done, every job was answered once. -/
theorem Progress.answered_perm (account : Progress jobs start c world events rows)
    (ended : c.IsOver) : ((answersOf events).map Prod.fst).Perm jobs := by
  have answers := account.answers
  rw [(inHand_eq_nil ended.2).2.1, List.append_nil] at answers
  exact answers.trans (account.callsOf_perm ended)

/-- When a crew is done, every job was counted once. -/
theorem Progress.sent_add_failed (account : Progress jobs start c world events rows)
    (ended : c.IsOver) : c.stats.sent + c.stats.failed = jobs.length := by
  have counted := account.counted
  rw [(inHand_eq_nil ended.2).2.2, List.length_nil, Nat.add_zero] at counted
  rw [← counted, ← (account.answered_perm ended).length_eq, List.length_map]

/-- What the log said at the start, it still says. -/
theorem Progress.wasSent_of_start (account : Progress jobs start c world events rows)
    {key : ReminderKey} (sent : start.store.WasSent key) : world.store.WasSent key := by
  obtain ⟨r, mem, sentRow⟩ := sent
  exact ⟨r, account.rows_eq ▸ List.mem_append_left _ mem, sentRow⟩

/-- When a crew is done and the log has refused nothing, the log says of what was sent, and of
nothing else, that it was sent since the start. -/
theorem Progress.wasSent_iff (account : Progress jobs start c world events rows)
    (ended : c.IsOver) (clean : c.stats.logErrors = 0) {key : ReminderKey} :
    world.store.WasSent key ↔
      start.store.WasSent key ∨ ∃ job, (job, .ok ()) ∈ answersOf events ∧ job.key = key := by
  refine ⟨account.truthful key, ?_⟩
  rintro (sent | ⟨job, answered, rfl⟩)
  · exact account.wasSent_of_start sent
  · apply (account.complete clean job answered).resolve_right
    intro waiting
    rw [(inHand_eq_nil ended.2).2.2] at waiting
    exact List.not_mem_nil waiting

end

end Crew

end Reminders
