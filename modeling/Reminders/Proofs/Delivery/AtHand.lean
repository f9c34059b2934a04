import Reminders.Proofs.Delivery.Crew

/-!
The jobs at hand.

A crew has jobs that it has not called the sender with, jobs that the sender has not answered, and
jobs whose answer it has not recorded. A move takes one of them further, or is the end of it.

* `Crew.Move.passes_or_settles`: a move passes a job on or is the end of one.
* `Crew.Move.atHand`: a move takes up no job besides those at hand.
-/

namespace Reminders.Crew

variable {timeout : Nat} {t : Turn} {a b : Crew × World}

/-- The jobs that are not done: those that the sender was not called with, those that it was called
with, and those that are not recorded. -/
def atHand (c : Crew) : List Job := c.uncalled ++ c.asked ++ c.heard.map Prod.fst

theorem atHand_start (concurrency : Nat) (jobs : List Job) :
    (start concurrency jobs).atHand = jobs := by
  obtain ⟨-, asked, heard⟩ := inHand_eq_nil (waiting_start concurrency jobs)
  rw [atHand, uncalled_start, asked, heard, List.map_nil, List.append_nil, List.append_nil]

/-- A crew that is done has nothing at hand. -/
theorem atHand_eq_nil {c : Crew} (ended : c.IsOver) : c.atHand = [] := by
  obtain ⟨-, asked, heard⟩ := inHand_eq_nil ended.2
  rw [atHand, uncalled_eq_nil ended, asked, heard]
  rfl

/-- The jobs at hand, with the one that a worker holds in front. -/
theorem atHand_place (queue : List Job) (before after : List JobWorker) (w : JobWorker) :
    (⟨queue, before ++ w :: after⟩ : Crew).atHand.Perm
      (w.phase.taken ++ w.phase.asked ++ w.phase.heard.map Prod.fst ++
        (⟨queue, before ++ after⟩ : Crew).atHand) := by
  classical
  apply List.perm_iff_count.mpr
  intro job
  simp only [atHand, uncalled, held_place, List.map_append, List.count_append]
  simp only [held, List.flatMap_append, List.map_append, List.count_append]
  omega

/-- A worker that only passes its job on leaves the jobs at hand as they are. -/
theorem atHand_pass (queue : List Job) (before after : List JobWorker) {w w' : JobWorker}
    (same : w.phase.taken ++ w.phase.asked ++ w.phase.heard.map Prod.fst =
      w'.phase.taken ++ w'.phase.asked ++ w'.phase.heard.map Prod.fst) :
    (⟨queue, before ++ w :: after⟩ : Crew).atHand.Perm
      (⟨queue, before ++ w' :: after⟩ : Crew).atHand := by
  refine (atHand_place queue before after w).trans ?_
  rw [same]
  exact (atHand_place queue before after w').symm

theorem mem_heard_place {queue : List Job} {before after : List JobWorker} {w : JobWorker}
    {x : Job × Except ChannelError Unit} : x ∈ (⟨queue, before ++ w :: after⟩ : Crew).heard ↔
      x ∈ w.phase.heard ∨ x ∈ (⟨queue, before ++ after⟩ : Crew).heard := by
  simp only [held_place, held, List.flatMap_append, List.mem_append]
  exact or_left_comm

/-- The job of a worker that has recorded its answer is done, and no other. -/
theorem place_done (queue : List Job) (before after : List JobWorker) (job : Job)
    (outcome : Except ChannelError Unit) (stats stats' : DeliveryStats) :
    let busy : Crew := ⟨queue, before ++ ⟨.sent job outcome, stats⟩ :: after⟩
    let free : Crew := ⟨queue, before ++ ⟨.waiting, stats'⟩ :: after⟩
    (job, outcome) ∈ busy.heard ∧ (∀ x ∈ free.heard, x ∈ busy.heard) ∧
      free.uncalled = busy.uncalled ∧ busy.atHand.Perm (job :: free.atHand) := by
  refine ⟨mem_heard_place.mpr (.inl List.mem_cons_self), fun x mem => ?_, ?_, ?_⟩
  · exact mem_heard_place.mpr (.inr ((mem_heard_place.mp mem).resolve_left List.not_mem_nil))
  · simp only [uncalled, held_place, JobPhase.taken]
  · refine (atHand_place ..).trans (List.Perm.cons job ?_)
    exact (atHand_place queue before after ⟨.waiting, stats'⟩).symm

/-- **A move passes a job on or is the end of one.** When it passes one on, the sender may have been
called with it. When it is the end, what was heard about the job is recorded. -/
theorem Move.passes_or_settles (move : Move timeout t a b) :
    (∃ events, b.2 = { a.2 with events := a.2.events ++ events } ∧
      (callsOf events ++ b.1.uncalled).Perm a.1.uncalled ∧ b.1.stats = a.1.stats ∧
      a.1.atHand.Perm b.1.atHand ∧
      ∀ x ∈ b.1.heard, x ∈ a.1.heard ∨ x.2 = x.1.outcome t.sender timeout) ∨
    ∃ job outcome, (job, outcome) ∈ a.1.heard ∧ (∀ x ∈ b.1.heard, x ∈ a.1.heard) ∧
      b.1.uncalled = a.1.uncalled ∧ a.1.atHand.Perm (job :: b.1.atHand) ∧
      b.1.stats = a.1.stats + (job.record outcome t.desk t.now a.2.store).1 ∧
      b.2 = { a.2 with store := (job.record outcome t.desk t.now a.2.store).2 } := by
  cases move with
  | take =>
    refine .inl ⟨[], by rw [List.append_nil], uncalled_take .., stats_phase .., ?_, ?_⟩
    · simp only [Crew.atHand, held_place, JobPhase.asked, JobPhase.heard]
      exact ((uncalled_take ..).symm.append_right _).append_right _
    · intro x mem
      exact .inl (by simpa only [held_place, JobPhase.heard] using mem)
  | call =>
    refine .inl ⟨[.called _], rfl, (uncalled_call ..).symm, stats_phase .., ?_, ?_⟩
    · exact atHand_pass _ _ _ rfl
    · intro x mem
      exact .inl (by simpa only [held_place, JobPhase.heard] using mem)
  | hear place answered =>
    refine .inl ⟨[.returned _ _], rfl, ?_, stats_phase .., ?_, ?_⟩
    · simp only [uncalled, held_place, JobPhase.taken]
      exact .refl _
    · exact atHand_pass _ _ _ rfl
    · intro x mem
      rcases mem_heard_place.mp mem with mem | mem
      · cases List.mem_singleton.mp mem
        exact .inr answered
      · exact .inl (mem_heard_place.mpr (.inr mem))
  | @record before after stats job queue world outcome place admitted =>
    obtain ⟨had, fewer, uncalled, atHand⟩ := place_done queue before after job outcome stats
      (stats + .ofOutcome outcome false)
    refine .inr ⟨job, outcome, had, fewer, uncalled, atHand, ?_, ?_⟩
    · rw [Job.record_of_not_refused admitted]
      exact stats_place ..
    · rw [Job.record_of_not_refused admitted]
  | @refuse before after stats job queue world outcome place refused =>
    obtain ⟨had, fewer, uncalled, atHand⟩ := place_done queue before after job outcome stats
      (stats + .ofOutcome outcome true)
    refine .inr ⟨job, outcome, had, fewer, uncalled, atHand, ?_, ?_⟩
    · rw [Job.record_of_refused refused]
      exact stats_place ..
    · rw [Job.record_of_refused refused]

/-- A move takes up no job besides those at hand, and puts one entry into the log at most, that of a
job at hand. -/
theorem Move.atHand (move : Move timeout t a b) :
    (∀ job ∈ b.1.atHand, job ∈ a.1.atHand) ∧
      (b.2.store = a.2.store ∨ ∃ job ∈ a.1.atHand, ∃ outcome,
        b.2.store = a.2.store.logged (job.entry outcome t.now)) := by
  rcases move.passes_or_settles with ⟨events, same, -, -, atHand, -⟩ |
    ⟨job, outcome, -, -, -, atHand, -, same⟩
  · exact ⟨fun job mem => atHand.mem_iff.mpr mem, .inl (by rw [same])⟩
  · refine ⟨fun job mem => atHand.mem_iff.mpr (List.mem_cons_of_mem _ mem), ?_⟩
    rw [same]
    by_cases refused : job.Refused outcome t.desk t.now a.2.store
    · rw [Job.record_of_refused refused]
      exact .inl rfl
    · rw [Job.record_of_not_refused refused]
      exact .inr ⟨job, atHand.mem_iff.mpr List.mem_cons_self, outcome, rfl⟩

end Reminders.Crew
