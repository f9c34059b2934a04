import Reminders.Proofs.Delivery.Share

/-!
What a crew answers for.

Whatever the sender answers and the log refuses, what a crew has done for its user stems from its
jobs: each job is called once or has still to be, the new rows are entries of jobs, and what the log
calls sent since the start is a job that was sent. When every job was taken and every entry let in,
each job that is not at hand is called sent.

* `Crew.Account.move`: every move keeps the account.
* `Crew.Account.complete_of_isOver`: what is known when the crew is done.
-/

namespace Reminders.Crew

open Script (Theirs)

variable {timeout : Nat} {t : Turn} {user other : Int} {jobs : List Job} {base : Store}
  {logged : List (LogColumn → Cell)} {c : Crew} {w w' : World} {a b : Crew × World}

/-- What a crew answers for, when it was given some jobs on the store `base` and the log said `logged`
about the user before. -/
structure Account (user : Int) (jobs : List Job) (base : Store)
    (logged : List (LogColumn → Cell)) (c : Crew) (w : World) : Prop where
  calls : (w.callsFor user ++ c.uncalled).Perm jobs
  entries : ∃ entries : List LogEntry,
    w.store.logFor user = logged ++ entries.map LogEntry.untimed ∧
      ∀ entry ∈ entries, ∃ job ∈ jobs, ∃ outcome now, entry = job.entry outcome now
  atHand : ∀ job ∈ c.atHand, job ∈ jobs
  theirs : ∀ job ∈ jobs, Theirs user w.store job
  counted : c.stats.sent + c.stats.failed + c.atHand.length = jobs.length
  lasting : ∀ key, w.store.Owns user key.subscriptionId → base.WasSent key → w.store.WasSent key
  truthful : ∀ key, w.store.Owns user key.subscriptionId → w.store.WasSent key →
    base.WasSent key ∨ ∃ job ∈ jobs, job.key = key
  complete : c.stats.failed = 0 → c.stats.logErrors = 0 →
    ∀ job ∈ jobs, job ∈ c.atHand ∨ w.store.WasSent job.key

theorem account_start (concurrency : Nat) (theirs : ∀ job ∈ jobs, Theirs user w.store job)
    (same : Store.SameFor user base w.store) (calls : w.callsFor user = []) :
    Account user jobs base (w.store.logFor user) (start concurrency jobs) w := by
  have atHand := atHand_start concurrency jobs
  refine ⟨?_, ⟨[], by rw [List.map_nil, List.append_nil], fun _ mem => absurd mem List.not_mem_nil⟩,
    ?_, theirs, ?_, ?_, ?_, ?_⟩
  · rw [calls, uncalled_start]
    exact .refl _
  · rw [atHand]
    exact fun job mem => mem
  · rw [atHand, stats_start]
    exact Nat.zero_add _
  · intro key owns
    exact (same.sent key (same.owns_iff.mp owns)).mpr
  · intro key owns sent
    exact .inl ((same.sent key (same.owns_iff.mp owns)).mp sent)
  · rw [atHand]
    exact fun _ _ job mem => .inl mem

/-- Others do not undo it. -/
theorem Account.sameFor (account : Account user jobs base logged c w)
    (same : World.SameFor user w w') : Account user jobs base logged c w' where
  calls := same.calls ▸ account.calls
  entries := same.log ▸ account.entries
  atHand := account.atHand
  theirs job mem := (account.theirs job mem).sameFor same.store
  counted := account.counted
  lasting key owns sent := by
    have before := same.store.owns_iff.mp owns
    exact (same.store.sent key before).mpr (account.lasting key before sent)
  truthful key owns sent := by
    have before := same.store.owns_iff.mp owns
    exact account.truthful key before ((same.store.sent key before).mp sent)
  complete failed errors job mem := by
    refine (account.complete failed errors job mem).imp_right fun sent => ?_
    exact (same.store.sent job.key (account.theirs job mem).1).mpr sent

/-- A job that is passed on. -/
theorem Account.pass {events : List Event} (account : Account user jobs base logged a.1 a.2)
    (same : b.2 = { a.2 with events := a.2.events ++ events })
    (calls : (callsOf events ++ b.1.uncalled).Perm a.1.uncalled) (stats : b.1.stats = a.1.stats)
    (atHand : a.1.atHand.Perm b.1.atHand) : Account user jobs base logged b.1 b.2 := by
  have called : ∀ job ∈ callsOf events, job.userId = user := by
    intro job mem
    have waited : job ∈ a.1.uncalled := calls.mem_iff.mp (List.mem_append_left _ mem)
    have given := account.atHand job (List.mem_append_left _ (List.mem_append_left _ waited))
    exact (account.theirs job given).2
  refine ⟨?_, ?_, ?_, ?_, ?_, ?_, ?_, ?_⟩
  · rw [same]
    exact World.callsFor_pass called calls account.calls
  · rw [same]
    exact account.entries
  · exact fun job mem => account.atHand job (atHand.mem_iff.mpr mem)
  · rw [same]
    exact account.theirs
  · rw [stats, ← atHand.length_eq]
    exact account.counted
  · rw [same]
    exact account.lasting
  · rw [same]
    exact account.truthful
  · rw [stats, same]
    intro failed errors job mem
    exact (account.complete failed errors job mem).imp_left atHand.mem_iff.mp

/-- A job that ends. -/
theorem Account.settle {job : Job} {outcome : Except ChannelError Unit} {desk : Desk}
    {now : Instant} (account : Account user jobs base logged a.1 a.2)
    (uncalled : b.1.uncalled = a.1.uncalled) (atHand : a.1.atHand.Perm (job :: b.1.atHand))
    (stats : b.1.stats = a.1.stats + (job.record outcome desk now a.2.store).1)
    (same : b.2 = { a.2 with store := (job.record outcome desk now a.2.store).2 }) :
    Account user jobs base logged b.1 b.2 := by
  have given : job ∈ jobs := account.atHand job (atHand.mem_iff.mpr List.mem_cons_self)
  have later : ∀ j ∈ b.1.atHand, j ∈ jobs := fun j mem =>
    account.atHand j (atHand.mem_iff.mpr (List.mem_cons_of_mem _ mem))
  have counted := account.counted
  rw [atHand.length_eq, List.length_cons] at counted
  by_cases refused : job.Refused outcome desk now a.2.store
  · rw [Job.record_of_refused refused] at stats same
    have one := DeliveryStats.ofOutcome_sent_add_failed outcome true
    have same : b.2 = a.2 := same
    rw [same]
    refine ⟨uncalled ▸ account.calls, account.entries, later, account.theirs, ?_, account.lasting,
      account.truthful, ?_⟩
    · simp only [stats, DeliveryStats.add_sent, DeliveryStats.add_failed]
      omega
    · rw [stats, DeliveryStats.add_logErrors, DeliveryStats.ofOutcome_logErrors]
      exact fun _ errors => absurd errors (by simp)
  · rw [Job.record_of_not_refused refused] at stats same
    have one := DeliveryStats.ofOutcome_sent_add_failed outcome false
    have owner : (job.entry outcome now).userId = user := (account.theirs job given).2
    have sent_iff (key : ReminderKey) : b.2.store.WasSent key ↔
        a.2.store.WasSent key ∨ (outcome = .ok () ∧ job.key = key) := by
      rw [same, Store.wasSent_logged, Job.entry_status_eq_sent_iff, Job.entry_key]
    have owns_iff (id : Int) : b.2.store.Owns user id ↔ a.2.store.Owns user id := by
      rw [same]
      exact Iff.rfl
    refine ⟨?_, ?_, later, ?_, ?_, ?_, ?_, ?_⟩
    · rw [uncalled, same]
      exact account.calls
    · obtain ⟨entries, log, stem⟩ := account.entries
      refine ⟨entries ++ [job.entry outcome now], ?_, ?_⟩
      · rw [same, Store.logFor_logged owner, log, List.map_append, List.append_assoc]
        rfl
      · intro entry mem
        rcases List.mem_append.mp mem with mem | mem
        · exact stem entry mem
        · exact ⟨job, given, outcome, now, List.mem_singleton.mp mem⟩
    · exact fun j mem => ⟨(owns_iff _).mpr (account.theirs j mem).1, (account.theirs j mem).2⟩
    · simp only [stats, DeliveryStats.add_sent, DeliveryStats.add_failed]
      omega
    · intro key owns sent
      exact (sent_iff key).mpr (.inl (account.lasting key ((owns_iff _).mp owns) sent))
    · intro key owns sent
      rcases (sent_iff key).mp sent with sent | ⟨-, same⟩
      · exact account.truthful key ((owns_iff _).mp owns) sent
      · exact .inr ⟨job, given, same⟩
    · rw [stats, DeliveryStats.add_failed, DeliveryStats.add_logErrors]
      intro failed errors j mem
      have taken : outcome = .ok () := by
        cases outcome with
        | ok u => rfl
        | error problem => exact absurd failed (by simp [DeliveryStats.ofOutcome])
      rcases account.complete (by omega) (by omega) j mem with here | sent
      · rcases List.mem_cons.mp (atHand.mem_iff.mp here) with rfl | here
        · exact .inr ((sent_iff _).mpr (.inr ⟨taken, rfl⟩))
        · exact .inl here
      · exact .inr ((sent_iff _).mpr (.inl sent))

/-- **Every move keeps the account.** -/
theorem Account.move (account : Account user jobs base logged a.1 a.2)
    (move : Move timeout t a b) : Account user jobs base logged b.1 b.2 := by
  rcases move.passes_or_settles with ⟨events, same, calls, stats, atHand, -⟩ |
    ⟨job, outcome, -, -, uncalled, atHand, stats, same⟩
  · exact account.pass same calls stats atHand
  · exact account.settle uncalled atHand stats same

/-- **What a crew comes to** that is done, when every job was taken and every entry let in: all its
jobs are counted as sent, and the log calls just these sent besides what it called sent before. -/
theorem Account.complete_of_isOver (account : Account user jobs base logged c w)
    (ended : c.IsOver) (failed : c.stats.failed = 0) (errors : c.stats.logErrors = 0) :
    c.stats = ⟨jobs.length, 0, 0⟩ ∧ ∀ key, w.store.Owns user key.subscriptionId →
      (w.store.WasSent key ↔ base.WasSent key ∨ ∃ job ∈ jobs, job.key = key) := by
  have atHand := atHand_eq_nil ended
  constructor
  · have counted := account.counted
    rw [atHand, List.length_nil] at counted
    exact DeliveryStats.ext (by simp only; omega) failed errors
  · intro key owns
    refine ⟨account.truthful key owns, ?_⟩
    rintro (sent | ⟨job, mem, rfl⟩)
    · exact account.lasting key owns sent
    · refine (account.complete failed errors job mem).resolve_left ?_
      rw [atHand]
      exact List.not_mem_nil

end Reminders.Crew
