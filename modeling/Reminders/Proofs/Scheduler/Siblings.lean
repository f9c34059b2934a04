import Reminders.Proofs.Scheduler.Absence
import Reminders.Proofs.Scheduler.AtMostOnce
import Reminders.Proofs.Scheduler.Origin

/-!
Beside a row that was spoiled.

A store that only its own operations have written can be read as a whole, so the run of a user on it
succeeds. When others have overwritten columns of one subscription, the run either fails, because that
row cannot be read and a query meets it, or it does for every other subscription what it would do if
the row were not there.

* `UserTask.outcome_of_reaches`: what a run by itself comes to.
* `Store.Written.tidy`: in a store that was written by its own operations all rows can be read.
* `Engine.spoiled_row_blocks_or_passes`, with the first of the two in
  `Engine.spoiled_row_blocks_siblings`
-/

namespace Reminders

open Store

/-! ### A run by itself -/

namespace UserTask

variable {e : Engine} {sender : Sender} {desk : Desk} {user : Int} {today : Date} {s : Store}
  {task : UserTask} {w : World} {result : Except Failure UserReport}

/-- Turns with one sender and one desk. -/
abbrev ReachesWith (e : Engine) (sender : Sender) (desk : Desk) :
    UserTask × World → UserTask × World → Prop :=
  Reaches e (Turn.With sender desk)

/-- **What a run keeps beside others** it keeps by itself, and nothing happens to the other users. -/
theorem Kept.of_reaches {allowed : Turn → Prop} {I : Int → UserTask → World → Prop}
    (kept : Kept e allowed I) (holds : I user (.start e user today) ⟨s, []⟩)
    (reached : Reaches e allowed (.start e user today, ⟨s, []⟩) (task, w)) :
    I user task w ∧ s.Worked w.store ∧ ∀ other, other ≠ user → World.SameFor other ⟨s, []⟩ w := by
  generalize last : (task, w) = b at reached
  induction reached generalizing task w with
  | refl =>
    cases last
    exact ⟨holds, .refl s, fun other _ => .refl other _⟩
  | tail _ led ih =>
    obtain ⟨t, turn, stepped⟩ := led
    cases last
    obtain ⟨holds, worked, others⟩ := ih rfl
    have confined := kept.confined holds
    exact ⟨kept.step turn holds stepped, worked.trans (confined.worked stepped),
      fun other different => (others other different).trans (confined.others stepped different)⟩

/-- **What a run by itself comes to**: all jobs of its preparation are sent, and nothing else. -/
theorem outcome_of_reaches (now : Instant) (timeless : desk.Timeless)
    (reached : ReachesWith e sender desk (.start e user today, ⟨s, []⟩) (.finished result, w)) :
    let p : Pool := ⟨sender, e.timeout, desk, now⟩
    let prepared := (Script.prepare e.defaultTemplate user today).run desk s
    result = p.result prepared.1 ∧ (callsOf w.events).Perm (Preparation.jobsOf prepared.1) ∧
      (s.logSince w.store).Perm ((Preparation.jobsOf prepared.1).flatMap p.leaves) ∧
        w.store.ofUser user = prepared.2.ofUser user := by
  obtain ⟨follows, worked, others⟩ :=
    (kept_follows e sender desk s today now timeless).of_reaches (tracks_start ..) reached
  obtain ⟨finished, subscriptions, calls, log⟩ := follows.settled
  refine ⟨finished, ?_, ?_, subscriptions⟩
  · rwa [World.callsFor, List.filter_eq_self.mpr] at calls
    intro job called
    by_contra different
    rw [decide_eq_true_eq] at different
    have none := (others job.userId different).calls
    have mine : job ∈ w.callsFor job.userId := List.mem_filter.mpr ⟨called, decide_eq_true rfl⟩
    rw [none] at mine
    exact List.not_mem_nil mine
  · rw [worked.grown.logFor_eq user] at log
    have mine := (List.perm_append_left_iff _).mp log
    rwa [List.filter_eq_self.mpr] at mine
    intro cells mem
    obtain ⟨other, theirs⟩ := worked.grown.exists_user mem
    by_cases same : other = user
    · exact decide_eq_true (same ▸ theirs)
    · -- The log says of the others what it said before.
      have still : w.store.logFor other = s.logFor other := (others other same).log
      rw [worked.grown.logFor_eq other] at still
      have none := List.append_cancel_left (still.trans (List.append_nil _).symm)
      exact absurd theirs (by simpa using List.filter_eq_nil_iff.mp none cells mem)

end UserTask

/-! ### Stores that are written by their operations -/

/-- An operation keeps the rows in order. -/
theorem Operation.tidy (operation : Operation) (desk : Desk) {s : Store} (tidy : s.Tidy) :
    (operation.perform desk s).Tidy := by
  cases operation with
  | createUser email => exact after_of tidy fun _ _ => tidy.createUser
  | insertSubscription sub => exact after_of tidy fun _ _ => tidy.insertSubscription
  | insertChannel user type config template => exact after_of tidy fun _ _ => tidy.insertChannel
  | setChannelEnabled channel enabled => exact tidy.setChannelEnabled channel enabled
  | upsertPolicy policy =>
    exact after_of tidy fun _ _ written => tidy.upsertPolicy (eq_ok_of_map_unit_eq_ok written)
  | updatePolicy user update => exact tidy.run _ desk
  | summary user today => exact tidy.run _ desk
  | reopen =>
    rw [Operation.perform, s.reopened_eq]
    exact tidy

namespace Store

variable {s : Store}

/-- The store has been written by its operations and calls only. -/
inductive Written : Store → Prop
  | empty : Written .empty
  | operation (operation : Operation) (desk : Desk) {s : Store} (written : Written s) :
    Written (operation.perform desk s)
  | call {call : StoreCall} {reply : call.Reply} {s s' : Store} (written : Written s)
    (answered : s.answer call = .ok (reply, s')) : Written s'

/-- **In a store that was written by its own operations all rows can be read.** -/
theorem Written.tidy (written : s.Written) : s.Tidy := by
  induction written with
  | empty => exact .empty
  | operation operation desk _ ih => exact operation.tidy desk ih
  | call _ answered ih => exact ih.answer answered

/-- A store after some operations has been written by them. -/
theorem written_foldl (desk : Desk) (operations : List Operation) (written : s.Written) :
    (operations.foldl (fun s operation => operation.perform desk s) s).Written := by
  induction operations generalizing s with
  | nil => exact written
  | cons operation rest ih => exact ih (.operation operation desk written)

namespace Tidy

theorem exists_query {P : Row SubscriptionColumn → Prop} [DecidablePred P] (tidy : s.Tidy) :
    ∃ subs, readSubscriptions (s.subscriptions.rows.filter fun r => decide (P r)) = .ok subs :=
  exists_readSubscriptions_iff_legible.mpr fun r mem =>
    (tidy.subscriptions r (List.mem_filter.mp mem).1).legible

/-- Something is found in a store in order. -/
theorem exists_found (tidy : s.Tidy) (defaultTemplate : String) (user : Int) (today : Date) :
    ∃ p, s.found defaultTemplate user today = .ok p := by
  obtain ⟨readings, read⟩ := exists_mapM_eq_ok (f := Channel.ofRow)
    (l := s.enabledChannels.filter fun r => (r.cell .userId).IsInt user) fun r mem =>
      tidy.channels r (List.mem_filter.mp (List.mem_filter.mp mem).1).1
  have foundChannels : s.findChannels user = .ok (readings.filterMap id) :=
    except_bind_eq_ok_iff.mpr ⟨readings, doing_eq_ok_iff.mpr read, rfl⟩
  obtain ⟨subs, foundSubs⟩ := tidy.exists_query (P := Row.IsNotifiable user)
  rw [← findNotifiable_eq] at foundSubs
  have foundPolicy : ∃ policy, s.findPolicy user = .ok policy := by
    unfold findPolicy
    cases found : s.policies.find? user with
    | none => exact ⟨none, rfl⟩
    | some r =>
      obtain ⟨policy, read⟩ := tidy.policies r (List.mem_of_find?_eq_some found)
      refine ⟨some policy, doing_eq_ok_iff.mpr ?_⟩
      rw [Option.mapM_some, read]
      rfl
  have foundAddress : ∃ address, s.userEmail? user = .ok address := by
    unfold userEmail?
    cases found : s.users.find? user with
    | none => exact ⟨none, rfl⟩
    | some r =>
      obtain ⟨email, stored⟩ := tidy.users r (List.mem_of_find?_eq_some found)
      refine ⟨some email, doing_eq_ok_iff.mpr ?_⟩
      rw [Option.mapM_some, stored]
      rfl
  obtain ⟨policy, foundPolicy⟩ := foundPolicy
  obtain ⟨address, foundAddress⟩ := foundAddress
  by_cases none : readings.filterMap id = []
  · exact ⟨_, found_eq_ok_iff.mpr ⟨_, foundChannels, .inl ⟨none, rfl⟩⟩⟩
  · exact ⟨_, found_eq_ok_iff.mpr ⟨_, foundChannels, .inr ⟨none, subs, policy, address, foundSubs,
      foundPolicy, foundAddress, rfl⟩⟩⟩

/-- **A preparation on a store in order succeeds.** -/
theorem exists_run_prepare (tidy : s.Tidy) (defaultTemplate : String) (user : Int) (today : Date) :
    ∃ p s', (Script.prepare defaultTemplate user today).run .open s = (.ok p, s') := by
  obtain ⟨subs, found⟩ := tidy.exists_query (P := Row.IsOverdue user today)
  rw [← findOverdue_eq] at found
  obtain ⟨p, finds⟩ := (tidy.run (Script.advanceUser user today) .open).exists_found
    defaultTemplate user today
  rw [Script.run_prepare_open, found]
  simp only [finds]
  exact ⟨_, _, rfl⟩

end Tidy

end Store

/-! ### The other subscriptions -/

/-- The rows that the jobs of the other subscriptions leave. -/
theorem Pool.leaves_without (p : Pool) (id : Int) (jobs : List Job) :
    ((jobs.filter (·.subscriptionId ≠ id)).flatMap p.leaves) =
      (jobs.flatMap p.leaves).filter (fun cells => ¬(cells .subscriptionId).IsInt id) := by
  refine flatMap_filter_eq (fun job cells mem => ?_) jobs
  unfold leaves at mem
  split at mem
  · rw [List.mem_singleton.mp mem]
    exact decide_eq_decide.mpr Iff.rfl
  · exact absurd mem List.not_mem_nil

namespace Engine

/-- **A spoiled row blocks its siblings or passes them by.** Let a store be written by its own
operations, and then let columns of one subscription be overwritten with any values that the columns
accept. With one sender, at whatever times and in whatever order of the workers, the run of a user on
a day ends in one of two ways. When the row cannot be read and one of the queries of the run meets
it, the run fails, the sender is not called and nothing is logged. Otherwise the run succeeds, and for
all other subscriptions it makes the same calls, leaves the same rows in the log, but for their order,
ids and times, and comes to the same dates as the run on the store without the row, which always
succeeds. The run that sends one job after the other is one of the runs. -/
theorem spoiled_row_blocks_or_passes {s t : Store} {id : Int} (written : s.Written)
    (spoils : Spoils id s t) (e : Engine) (sender : Sender) (user : Int) (today : Date) :
    (∀ result w result' w',
      UserTask.ReachesWith e sender .open (.start e user today, ⟨t, []⟩) (.finished result, w) →
      UserTask.ReachesWith e sender .open (.start e user today, ⟨t.withoutSubscription id, []⟩)
        (.finished result', w') →
      (∃ report, result' = .ok report) ∧
      (t.Blocks id user today →
        (∃ failure, result = .error failure) ∧ callsOf w.events = [] ∧ t.logSince w.store = []) ∧
      (¬t.Blocks id user today →
        (∃ report, result = .ok report) ∧
          ((callsOf w.events).filter (·.subscriptionId ≠ id)).Perm (callsOf w'.events) ∧
          ((t.logSince w.store).filter fun cells => ¬(cells .subscriptionId).IsInt id).Perm
            ((t.withoutSubscription id).logSince w'.store) ∧
          (w.store.ofUser user).filter (·.id ≠ id) = w'.store.ofUser user)) ∧
    ∀ now (u : Store), ∃ events, UserTask.ReachesWith e sender .open (.start e user today, ⟨u, []⟩)
      (.finished (e.runUser sender .open now u user today).result,
        ⟨(e.runUser sender .open now u user today).store, events⟩) ∧
      callsOf events = (e.runUser sender .open now u user today).sent := by
  have timeless : Desk.Timeless .open := fun _ _ => rfl
  constructor
  · intro result w result' w' ran ran'
    obtain ⟨finished, calls, log, dates⟩ :=
      UserTask.outcome_of_reaches (.startOf today) timeless ran
    obtain ⟨finished', calls', log', dates'⟩ :=
      UserTask.outcome_of_reaches (.startOf today) timeless ran'
    obtain ⟨q, absent, ready'⟩ := (spoils.tidy written.tidy).exists_run_prepare e.defaultTemplate
      user today
    rw [ready'] at finished' calls' log' dates'
    refine ⟨⟨_, finished'⟩, fun blocks => ?_, fun passes => ?_⟩
    · obtain ⟨failure, failed⟩ := Script.run_prepare_of_blocks e.defaultTemplate blocks
      rw [failed] at finished calls log
      exact ⟨⟨failure, finished⟩, calls.eq_nil, log.eq_nil⟩
    · obtain ⟨p, left, ready, lacks, jobs⟩ := Script.run_prepare_of_not_blocks
        (lacks_withoutSubscription t id) ready' passes
      rw [ready] at finished calls log dates
      refine ⟨⟨_, finished⟩, ?_, ?_, ?_⟩
      · refine (calls.filter _).trans (List.Perm.trans (.of_eq ?_) calls'.symm)
        exact jobs.symm
      · refine (log.filter _).trans (List.Perm.trans (.of_eq ?_) log'.symm)
        change List.filter _ (p.jobs.flatMap _) = q.jobs.flatMap _
        rw [jobs, Pool.leaves_without]
      · rw [dates, dates', lacks.ofUser]
  · intro now u
    obtain ⟨events, ran, calls⟩ := e.runs_runUser sender .open now ⟨u, []⟩ user today
    exact ⟨events, .of_repeats ⟨rfl, rfl⟩ ran, calls⟩

end Engine

namespace Sample

/-- A store with two subscriptions that charge today. -/
def paired : Store := (Operation.insertSubscription subscription).perform .open filled

/-- The store after a text was put into a column of the second subscription. -/
def spoiled (column : SubscriptionColumn) (text : String) : Store :=
  match paired.overwrite 2 (.text text) (.subscription column) with
  | .ok written => written.2
  | .error _ => paired

theorem spoils_spoiled (column : SubscriptionColumn) (text : String) :
    Spoils 2 paired (spoiled column text) := by
  unfold spoiled
  split
  · rename_i written overwritten
    exact .single ⟨column, .text text, written.1, overwritten⟩
  · exact .refl

/-- The run of the user of the two subscriptions. -/
def runOn (s : Store) : UserOutcome := engine.runUser sender .open noon s 1 today

end Sample

namespace Engine

/-- **A row can block its siblings**: with a text in a column of numbers of one subscription the run
fails and reminds of nothing, and without that subscription it reminds of the other one. -/
theorem spoiled_row_blocks_siblings :
    Sample.paired.Written ∧ Spoils 2 Sample.paired (Sample.spoiled .intervalCount "one") ∧
      (∀ report, (Sample.runOn (Sample.spoiled .intervalCount "one")).result ≠ .ok report) ∧
      (Sample.runOn (Sample.spoiled .intervalCount "one")).sent.map (·.subscriptionId) = [] ∧
      (Sample.runOn ((Sample.spoiled .intervalCount "one").withoutSubscription 2)).sent.map
        (·.subscriptionId) = [1] := by
  refine ⟨.operation _ _ (written_foldl .open Sample.operations .empty), Sample.spoils_spoiled _ _,
    ?_, by decide +kernel, by decide +kernel⟩
  have fails : (Sample.runOn (Sample.spoiled .intervalCount "one")).result.toOption = none := by
    decide +kernel
  intro report ok
  rw [ok] at fails
  cases fails

/-- A text that is no number blocks the other subscription, and one that is no date does not. -/
theorem spoiled_row_blocks_or_passes_sample :
    Sample.paired.Written ∧
    Spoils 2 Sample.paired (Sample.spoiled .intervalCount "one") ∧
      (Sample.spoiled .intervalCount "one").Blocks 2 1 Sample.today ∧
      (Sample.runOn (Sample.spoiled .intervalCount "one")).sent = [] ∧
    Spoils 2 Sample.paired (Sample.spoiled .nextOccurrence "soon") ∧
      ¬(Sample.spoiled .nextOccurrence "soon").Blocks 2 1 Sample.today ∧
      ((Sample.runOn (Sample.spoiled .nextOccurrence "soon")).sent.filter
        (·.subscriptionId ≠ 2)).map (·.subscriptionId) = [1] := by
  have written : Sample.paired.Written := .operation _ _ (written_foldl .open Sample.operations .empty)
  have outcome (column : SubscriptionColumn) (text : String) :
      ((Sample.spoiled column text).Blocks 2 1 Sample.today →
        (∃ failure, (Sample.runOn (Sample.spoiled column text)).result = .error failure) ∧
          (Sample.runOn (Sample.spoiled column text)).sent = []) ∧
      (¬(Sample.spoiled column text).Blocks 2 1 Sample.today →
        (∃ report, (Sample.runOn (Sample.spoiled column text)).result = .ok report) ∧
          ((Sample.runOn (Sample.spoiled column text)).sent.filter (·.subscriptionId ≠ 2)).Perm
            (Sample.runOn ((Sample.spoiled column text).withoutSubscription 2)).sent) := by
    obtain ⟨apart, exist⟩ := spoiled_row_blocks_or_passes written
      (Sample.spoils_spoiled column text) Sample.engine Sample.sender 1 Sample.today
    obtain ⟨events, ran, calls⟩ := exist Sample.noon (Sample.spoiled column text)
    obtain ⟨events', ran', calls'⟩ := exist Sample.noon
      ((Sample.spoiled column text).withoutSubscription 2)
    obtain ⟨-, blocked, passed⟩ := apart _ _ _ _ ran ran'
    constructor
    · intro blocks
      obtain ⟨failed, none, -⟩ := blocked blocks
      exact ⟨failed, calls.symm.trans none⟩
    · intro passes
      obtain ⟨ok, same, -⟩ := passed passes
      rw [calls, calls'] at same
      exact ⟨ok, same⟩
  have blocks : (Sample.spoiled .intervalCount "one").Blocks 2 1 Sample.today := by
    by_contra passes
    obtain ⟨report, ok⟩ := ((outcome _ _).2 passes).1
    have fails : (Sample.runOn (Sample.spoiled .intervalCount "one")).result.toOption = none := by
      decide +kernel
    rw [ok] at fails
    cases fails
  have passes : ¬(Sample.spoiled .nextOccurrence "soon").Blocks 2 1 Sample.today := by
    intro blocks
    obtain ⟨failure, failed⟩ := ((outcome _ _).1 blocks).1
    have succeeds : (Sample.runOn (Sample.spoiled .nextOccurrence "soon")).result =
        .ok ⟨0, 1, 0, 0, ⟨1, 0, 0⟩⟩ := by decide +kernel
    cases failed.symm.trans succeeds
  refine ⟨written, Sample.spoils_spoiled _ _, blocks, ((outcome _ _).1 blocks).2,
    Sample.spoils_spoiled _ _, passes, ?_⟩
  have alone : (Sample.runOn ((Sample.spoiled .nextOccurrence "soon").withoutSubscription 2)).sent.map
      (·.subscriptionId) = [1] := by decide +kernel
  refine List.perm_singleton.mp ((((outcome _ _).2 passes).2.map _).trans ?_)
  rw [alone]

end Engine

end Reminders
