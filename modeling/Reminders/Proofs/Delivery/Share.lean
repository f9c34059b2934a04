import Reminders.Proofs.Scheduler.Tasks

/-!
What a crew does for its user.

With one sender and one desk it is known beforehand what each job comes to: how it is counted, and
which row it leaves. So whatever the order of the workers, what a crew has done and what it has still
to do make up the same share.

* `Crew.Move.others`: a move is nothing to the other users.
* `Crew.Share.move`: every move keeps the share.
* `Crew.Share.settled`: what the share comes to when the crew is done.
-/

namespace Reminders

/-- The desk does not look at the time that an entry bears. -/
def Desk.Timeless (desk : Desk) : Prop :=
  ∀ (entry : LogEntry) (now : Instant),
    desk (.insertLog { entry with sentAt := now }) = desk (.insertLog entry)

/-- The cells of a row of the log, but for the time. -/
def Row.untimed (r : Row LogColumn) : LogColumn → Cell := (r.set .sentAt .null).cell

/-- The cells of an entry, but for the time. -/
def LogEntry.untimed (e : LogEntry) : LogColumn → Cell := Row.untimed ⟨0, e.toCells⟩

/-- What the log says about a user, but for ids and times. -/
def Store.logFor (s : Store) (user : Int) : List (LogColumn → Cell) :=
  (s.logs.rows.map Row.untimed).filter fun cells => (cells .userId).IsInt user

/-- The rows of the log that were not there before, but for ids and times. -/
def Store.logSince (s s' : Store) : List (LogColumn → Cell) :=
  (s'.logs.rows.drop s.logs.rows.length).map Row.untimed

/-- The jobs of a user that the sender was called with. -/
def World.callsFor (w : World) (user : Int) : List Job :=
  (callsOf w.events).filter (·.userId = user)

namespace Store

variable {s : Store} {user other : Int} {e : LogEntry}

theorem logFor_logged (theirs : e.userId = user) :
    (s.logged e).logFor user = s.logFor user ++ [e.untimed] := by
  simp only [logFor, logged_rows, List.map_append, List.filter_append, List.map_singleton]
  refine congrArg _ (List.filter_cons_of_pos ?_)
  rw [decide_eq_true_eq, Cell.isInt_iff]
  exact congrArg Cell.integer theirs

theorem logFor_logged_of_ne (others : e.userId ≠ user) :
    (s.logged e).logFor user = s.logFor user := by
  simp only [logFor, logged_rows, List.map_append, List.filter_append, List.map_singleton]
  refine (congrArg _ (List.filter_cons_of_neg ?_)).trans (List.append_nil _)
  rw [decide_eq_true_eq, Cell.isInt_iff]
  exact fun same => others (Cell.integer.inj same)

end Store

/-- The time of an entry is not among its untimed cells. -/
theorem LogEntry.untimed_sentAt (e : LogEntry) (now : Instant) :
    { e with sentAt := now }.untimed = e.untimed := by
  funext k
  cases k <;> rfl

/-- Only the time of the entry of a job depends on when it is written. -/
theorem Job.entry_sentAt (j : Job) (outcome : Except ChannelError Unit) (now later : Instant) :
    j.entry outcome later = { j.entry outcome now with sentAt := later } := by
  cases outcome <;> rfl

/-! ### What a job comes to -/

namespace Pool

variable (p : Pool) (job : Job)

/-- The desk lets the entry of the job through. -/
def Admits : Prop :=
  p.desk (.insertLog (job.entry (job.outcome p.sender p.timeout) p.now)) = none

instance : Decidable (p.Admits job) := inferInstanceAs (Decidable (_ = none))

/-- How the job is counted. -/
def worth : DeliveryStats := .ofOutcome (job.outcome p.sender p.timeout) (!decide (p.Admits job))

/-- The row that the job leaves, if any, but for id and time. -/
def leaves : List (LogColumn → Cell) :=
  if p.Admits job then [(job.entry (job.outcome p.sender p.timeout) p.now).untimed] else []

variable {p job}

/-- The desk says the same at any time. -/
theorem admits_iff (timeless : p.desk.Timeless) (now : Instant) :
    p.desk (.insertLog (job.entry (job.outcome p.sender p.timeout) now)) = none ↔ p.Admits job := by
  rw [Admits, job.entry_sentAt _ p.now now, timeless]

/-- **What recording a new job does**, at any time: it is counted for what it is worth, and leaves its
row. -/
theorem record_eq (timeless : p.desk.Timeless) (now : Instant) {s : Store}
    (unsent : ¬s.WasSent job.key) :
    job.record (job.outcome p.sender p.timeout) p.desk now s =
      (p.worth job, if p.Admits job then
        s.logged (job.entry (job.outcome p.sender p.timeout) now) else s) := by
  by_cases admits : p.Admits job
  · have admitted : ¬job.Refused (job.outcome p.sender p.timeout) p.desk now s := by
      rintro (refused | ⟨-, sent⟩)
      · exact refused ((admits_iff timeless now).mpr admits)
      · exact unsent sent
    rw [Job.record_of_not_refused admitted, if_pos admits, worth, decide_eq_true admits]
    rfl
  · have refused : job.Refused (job.outcome p.sender p.timeout) p.desk now s :=
      .inl fun passed => admits ((admits_iff timeless now).mp passed)
    rw [Job.record_of_refused refused, if_neg admits, worth, decide_eq_false admits]
    rfl

end Pool

/-! ### The share of a user -/

/-- Nothing has happened between two worlds that is of interest to a user. -/
structure World.SameFor (user : Int) (w w' : World) : Prop where
  store : Store.SameFor user w.store w'.store
  calls : w'.callsFor user = w.callsFor user
  log : w'.store.logFor user = w.store.logFor user

theorem World.SameFor.refl (user : Int) (w : World) : SameFor user w w :=
  ⟨.refl user w.store, rfl, rfl⟩

theorem World.SameFor.trans {user : Int} {w w' w'' : World} (first : SameFor user w w')
    (second : SameFor user w' w'') : SameFor user w w'' :=
  ⟨first.store.trans second.store, second.calls.trans first.calls, second.log.trans first.log⟩

theorem World.callsFor_append (w : World) (user : Int) (events : List Event) :
    World.callsFor { w with events := w.events ++ events } user =
      w.callsFor user ++ (callsOf events).filter (·.userId = user) := by
  rw [callsFor, callsOf_append, List.filter_append]
  rfl

/-- What is called for a user is one less to call. -/
theorem World.callsFor_pass {user : Int} {w : World} {events : List Event} {left left' jobs : List Job}
    (mine : ∀ job ∈ callsOf events, job.userId = user) (passed : (callsOf events ++ left').Perm left)
    (calls : (w.callsFor user ++ left).Perm jobs) :
    (World.callsFor { w with events := w.events ++ events } user ++ left').Perm jobs := by
  rw [callsFor_append, List.filter_eq_self.mpr fun job mem => decide_eq_true (mine job mem),
    List.append_assoc]
  exact (passed.append_left _).trans calls

namespace Crew

open Script (Theirs)

variable {p : Pool} {t : Turn} {user other : Int} {jobs : List Job}
  {logged : List (LogColumn → Cell)} {c : Crew} {w w' : World} {a b : Crew × World}

/-- **A move for one user is nothing to the others.** -/
theorem Move.others {timeout : Nat} (theirs : ∀ job ∈ a.1.atHand, Theirs user a.2.store job)
    (move : Move timeout t a b) (different : other ≠ user) : World.SameFor other a.2 b.2 := by
  rcases move.passes_or_settles with ⟨events, same, calls, -, -, -⟩ |
    ⟨job, outcome, had, -, -, atHand, -, same⟩
  · rw [same]
    refine ⟨.refl other _, ?_, rfl⟩
    rw [World.callsFor_append, List.filter_eq_nil_iff.mpr, List.append_nil]
    intro job mem
    have waited : job ∈ a.1.uncalled := calls.mem_iff.mp (List.mem_append_left _ mem)
    have owner := (theirs job (List.mem_append_left _ (List.mem_append_left _ waited))).2
    rw [decide_eq_true_eq, owner]
    exact different.symm
  · have own := theirs job (atHand.mem_iff.mpr List.mem_cons_self)
    rw [same]
    by_cases refused : job.Refused outcome t.desk t.now a.2.store
    · rw [Job.record_of_refused refused]
      exact .refl other _
    · rw [Job.record_of_not_refused refused]
      refine ⟨Store.sameFor_logged own.1 different, rfl, Store.logFor_logged_of_ne ?_⟩
      exact fun same => different (same.symm.trans own.2)

/-- What a crew has done for a user and has still to do: the sender is called with each job once;
counts and rows are what the jobs come to; and the jobs at hand are new. -/
structure Share (p : Pool) (user : Int) (jobs : List Job) (logged : List (LogColumn → Cell))
    (c : Crew) (w : World) : Prop where
  calls : (w.callsFor user ++ c.uncalled).Perm jobs
  heard : ∀ x ∈ c.heard, x.2 = x.1.outcome p.sender p.timeout
  counted : c.stats + (c.atHand.map p.worth).sum = (jobs.map p.worth).sum
  log : (w.store.logFor user ++ c.atHand.flatMap p.leaves).Perm (logged ++ jobs.flatMap p.leaves)
  theirs : ∀ job ∈ c.atHand, Theirs user w.store job
  distinct : (c.atHand.map Job.key).Nodup
  unsent : ∀ job ∈ c.atHand, ¬w.store.WasSent job.key

theorem share_start (concurrency : Nat) (theirs : ∀ job ∈ jobs, Theirs user w.store job)
    (distinct : (jobs.map Job.key).Nodup) (unsent : ∀ job ∈ jobs, ¬w.store.WasSent job.key)
    (calls : w.callsFor user = []) :
    Share p user jobs (w.store.logFor user) (start concurrency jobs) w := by
  have atHand := atHand_start concurrency jobs
  refine ⟨?_, ?_, ?_, ?_, ?_, ?_, ?_⟩
  · rw [calls, uncalled_start]
    exact .refl _
  · rw [(inHand_eq_nil (waiting_start _ _)).2.2]
    exact fun _ mem => absurd mem List.not_mem_nil
  · rw [stats_start, atHand, zero_add]
  · rw [atHand]
  · rwa [atHand]
  · rwa [atHand]
  · rwa [atHand]

/-- Others do not undo it. -/
theorem Share.sameFor (share : Share p user jobs logged c w) (same : World.SameFor user w w') :
    Share p user jobs logged c w' where
  calls := same.calls ▸ share.calls
  heard := share.heard
  counted := share.counted
  log := same.log ▸ share.log
  theirs job mem := (share.theirs job mem).sameFor same.store
  distinct := share.distinct
  unsent job mem sent :=
    share.unsent job mem ((same.store.sent job.key (share.theirs job mem).1).mp sent)

/-- A job that is passed on. -/
theorem Share.pass {events : List Event} (share : Share p user jobs logged a.1 a.2)
    (same : b.2 = { a.2 with events := a.2.events ++ events })
    (calls : (callsOf events ++ b.1.uncalled).Perm a.1.uncalled) (stats : b.1.stats = a.1.stats)
    (atHand : a.1.atHand.Perm b.1.atHand)
    (heard : ∀ x ∈ b.1.heard, x ∈ a.1.heard ∨ x.2 = x.1.outcome p.sender p.timeout) :
    Share p user jobs logged b.1 b.2 := by
  have called : ∀ job ∈ callsOf events, job.userId = user := by
    intro job mem
    refine (share.theirs job (List.mem_append_left _ (List.mem_append_left _ ?_))).2
    exact calls.mem_iff.mp (List.mem_append_left _ mem)
  refine ⟨?_, ?_, ?_, ?_, ?_, ?_, ?_⟩
  · rw [same]
    exact World.callsFor_pass called calls share.calls
  · intro x mem
    exact (heard x mem).elim (share.heard x) id
  · rw [stats, ← (atHand.map p.worth).sum_eq]
    exact share.counted
  · rw [same]
    exact (atHand.symm.flatMap_right p.leaves).append_left _ |>.trans share.log
  · rw [same]
    exact fun job mem => share.theirs job (atHand.mem_iff.mpr mem)
  · exact (atHand.map Job.key).nodup_iff.mp share.distinct
  · rw [same]
    exact fun job mem => share.unsent job (atHand.mem_iff.mpr mem)

/-- A job that ends. -/
theorem Share.settle {job : Job} {outcome : Except ChannelError Unit} {now : Instant}
    (timeless : p.desk.Timeless) (share : Share p user jobs logged a.1 a.2)
    (had : (job, outcome) ∈ a.1.heard) (heard : ∀ x ∈ b.1.heard, x ∈ a.1.heard)
    (uncalled : b.1.uncalled = a.1.uncalled) (atHand : a.1.atHand.Perm (job :: b.1.atHand))
    (stats : b.1.stats = a.1.stats + (job.record outcome p.desk now a.2.store).1)
    (same : b.2 = { a.2 with store := (job.record outcome p.desk now a.2.store).2 }) :
    Share p user jobs logged b.1 b.2 := by
  obtain rfl : outcome = job.outcome p.sender p.timeout := share.heard _ had
  have mem : job ∈ a.1.atHand := atHand.mem_iff.mpr List.mem_cons_self
  have later {j : Job} (h : j ∈ b.1.atHand) : j ∈ a.1.atHand :=
    atHand.mem_iff.mpr (List.mem_cons_of_mem _ h)
  have theirs := share.theirs job mem
  obtain ⟨alone, distinct⟩ := List.nodup_cons.mp ((atHand.map Job.key).nodup_iff.mp share.distinct)
  rw [p.record_eq timeless now (share.unsent job mem)] at stats same
  have log := ((atHand.flatMap_right p.leaves).append_left _).symm.trans share.log
  rw [List.flatMap_cons, ← List.append_assoc] at log
  have counted : b.1.stats + (b.1.atHand.map p.worth).sum = (jobs.map p.worth).sum := by
    rw [stats, ← share.counted, (atHand.map p.worth).sum_eq, List.map_cons, List.sum_cons, add_assoc]
  have calls : (b.2.callsFor user ++ b.1.uncalled).Perm jobs := by
    rw [uncalled, same]
    exact share.calls
  by_cases admits : p.Admits job
  · rw [if_pos admits] at same
    rw [Pool.leaves, if_pos admits] at log
    have owner : (job.entry (job.outcome p.sender p.timeout) now).userId = user := theirs.2
    have logFor : b.2.store.logFor user = a.2.store.logFor user ++
        [(job.entry (job.outcome p.sender p.timeout) p.now).untimed] := by
      rw [same, Store.logFor_logged owner, job.entry_sentAt _ p.now now, LogEntry.untimed_sentAt]
    refine ⟨calls, ?_, counted, by rw [logFor]; exact log, ?_, distinct, ?_⟩
    · exact fun x mem => share.heard x (heard x mem)
    · intro j mem
      rw [same]
      exact share.theirs j (later mem)
    · intro j mem
      rw [same, Store.wasSent_logged, Job.entry_key]
      rintro (sent | ⟨-, key⟩)
      · exact share.unsent j (later mem) sent
      · exact alone (List.mem_map.mpr ⟨j, mem, key.symm⟩)
  · rw [if_neg admits] at same
    rw [Pool.leaves, if_neg admits, List.append_nil] at log
    have same : b.2 = a.2 := same
    rw [same] at calls ⊢
    refine ⟨calls, ?_, counted, log, ?_, distinct, ?_⟩
    · exact fun x mem => share.heard x (heard x mem)
    · exact fun j mem => share.theirs j (later mem)
    · exact fun j mem => share.unsent j (later mem)

/-- **Every move keeps the share.** -/
theorem Share.move (sender : t.sender = p.sender) (desk : t.desk = p.desk)
    (timeless : p.desk.Timeless) (share : Share p user jobs logged a.1 a.2)
    (move : Move p.timeout t a b) : Share p user jobs logged b.1 b.2 := by
  rcases move.passes_or_settles with ⟨events, same, calls, stats, atHand, heard⟩ |
    ⟨job, outcome, had, heard, uncalled, atHand, stats, same⟩
  · rw [sender] at heard
    exact share.pass same calls stats atHand heard
  · rw [desk] at stats same
    exact share.settle timeless had heard uncalled atHand stats same

/-- **What the share comes to** when the crew is done. -/
theorem Share.settled (share : Share p user jobs logged c w) (ended : c.IsOver) :
    (w.callsFor user).Perm jobs ∧ (w.store.logFor user).Perm (logged ++ jobs.flatMap p.leaves) ∧
      c.stats = (jobs.map p.worth).sum := by
  obtain ⟨calls, -, counted, log, -, -, -⟩ := share
  rw [uncalled_eq_nil ended, List.append_nil] at calls
  rw [atHand_eq_nil ended] at counted log
  refine ⟨calls, ?_, ?_⟩
  · simpa using log
  · rw [← counted]
    exact (add_zero _).symm

end Crew

end Reminders
