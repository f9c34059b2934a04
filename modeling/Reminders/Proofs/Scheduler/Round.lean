import Mathlib.Algebra.GroupWithZero.Nat
import Reminders.Proofs.Scheduler.UserTask

/-!
Ticks with several workers.

`Round.Move` lists what a turn of a tick can do. Whoever takes the turns, every user who was listed
waits, is held by one worker, or is finished, and every finished run is counted by the worker that
held it.

* `Round.step_eq_some_iff`: a step is one of the three moves.
* `Round.progress_of_runs`: the account of a whole tick.
-/

namespace Reminders

/-! ### Sums of reports -/

@[ext] theorem UserReport.ext {a b : UserReport} (advanced : a.advanced = b.advanced)
    (due : a.due = b.due) (alreadySent : a.alreadySent = b.alreadySent)
    (renderFailures : a.renderFailures = b.renderFailures) (delivery : a.delivery = b.delivery) :
    a = b := by
  cases a; cases b; simp_all

namespace UserReport

instance : Zero UserReport := ⟨.zero⟩

/-- Reports are added field by field. -/
theorem add_def (a b : UserReport) : a + b =
    ⟨a.advanced + b.advanced, a.due + b.due, a.alreadySent + b.alreadySent,
      a.renderFailures + b.renderFailures, a.delivery + b.delivery⟩ := rfl

instance : AddCommMonoid UserReport where
  add_assoc a b c := by ext : 1 <;> exact add_assoc ..
  zero_add a := by ext : 1 <;> exact zero_add _
  add_zero a := by ext : 1 <;> exact add_zero _
  add_comm a b := by ext : 1 <;> exact add_comm ..
  nsmul := nsmulRec

end UserReport

namespace Round

/-- What a tick may do at a turn: the worker whose turn it is takes the first user, goes on with the
run at hand, or adds a finished run to its report. -/
inductive Move (e : Engine) (today : Date) (t : Turn) : Round × World → Round × World → Prop
  | take {users user queue before after report finished world} (place : before.length = t.worker) :
      Move e today t (⟨users, user :: queue, before ++ ⟨none, report⟩ :: after, finished⟩, world)
        (⟨users, queue, before ++ ⟨some (user, .start e user today), report⟩ :: after, finished⟩,
          world)
  | work {users user queue before after report finished world task task' world'}
      (place : before.length = t.worker) (step : task.step e t world = some (task', world')) :
      Move e today t
        (⟨users, queue, before ++ ⟨some (user, task), report⟩ :: after, finished⟩, world)
        (⟨users, queue, before ++ ⟨some (user, task'), report⟩ :: after, finished⟩, world')
  | finish {users user queue before after report finished world result}
      (place : before.length = t.worker) :
      Move e today t
        (⟨users, queue, before ++ ⟨some (user, .finished result), report⟩ :: after, finished⟩,
          world)
        (⟨users, queue, before ++ ⟨none, report.absorb result⟩ :: after,
          finished ++ [(user, result)]⟩, world)

/-- A step is one of the moves. -/
theorem step_eq_some_iff {e : Engine} {today : Date} {t : Turn} {r : Round} {world : World}
    {b : Round × World} : r.step e today t world = some b ↔ Move e today t (r, world) b := by
  obtain ⟨users, queue, workers, finished⟩ := r
  constructor
  · intro h
    unfold step at h
    cases found : workers[t.worker]? with
    | none => simp only [found] at h; cases h
    | some w =>
      simp only [found] at h
      obtain ⟨before, after, rfl, place⟩ := exists_eq_append_of_getElem? found
      obtain ⟨task, report⟩ := w
      simp only [put, ← place, set_append_cons] at h
      cases task with
      | none =>
        cases queue with
        | nil => cases h
        | cons user queue => cases h; exact .take place
      | some held =>
        obtain ⟨user, task⟩ := held
        cases task with
        | finished result => cases h; exact .finish place
        | preparing work =>
          obtain ⟨⟨task', world'⟩, step, rfl⟩ := Option.map_eq_some_iff.mp h
          exact .work place step
        | dispatching p crew =>
          obtain ⟨⟨task', world'⟩, step, rfl⟩ := Option.map_eq_some_iff.mp h
          exact .work place step
  · intro h
    cases h with
    | take place => simp [step, put, ← place]
    | finish place => simp [step, put, ← place]
    | @work users user queue before after report finished _ task task' world' place step =>
      cases task with
      | finished result => cases step
      | preparing | dispatching => simp [Round.step, put, ← place, step]

/-! ### The account of a tick -/

/-- The users that workers hold. -/
def held (r : Round) : List Int := r.workers.flatMap fun w => (w.task.map Prod.fst).toList

/-- The reports of the runs that succeeded. -/
def succeeded (finished : List (Int × Except Failure UserReport)) : List UserReport :=
  finished.filterMap (·.2.toOption)

theorem succeeded_concat_ok (finished : List (Int × Except Failure UserReport)) (user : Int)
    (report : UserReport) :
    succeeded (finished ++ [(user, .ok report)]) = succeeded finished ++ [report] :=
  List.filterMap_append

theorem succeeded_concat_error (finished : List (Int × Except Failure UserReport)) (user : Int)
    (failure : Failure) :
    succeeded (finished ++ [(user, .error failure)]) = succeeded finished :=
  List.filterMap_append.trans (List.append_nil _)

/-- What a tick has done since it started for some users. -/
structure Progress (users : List Int) (r : Round) : Prop where
  users_eq : r.users = users
  /-- Every user waits, is held, or is finished. -/
  conserved : (r.finished.map Prod.fst ++ (r.held ++ r.queue)).Perm users
  totals : (r.workers.map (·.report.totals)).sum = (succeeded r.finished).sum
  /-- Every finished run has succeeded or is counted as failed. -/
  counted : (succeeded r.finished).length + (r.workers.map (·.report.usersFailed)).sum =
    r.finished.length

theorem held_place (users queue : List Int) (before after : List UserWorker) (w : UserWorker)
    (finished : List (Int × Except Failure UserReport)) :
    (⟨users, queue, before ++ w :: after, finished⟩ : Round).held =
      before.flatMap (fun w => (w.task.map Prod.fst).toList) ++
        ((w.task.map Prod.fst).toList ++
          after.flatMap fun w => (w.task.map Prod.fst).toList) := by
  simp only [held, List.flatMap_append, List.flatMap_cons]

theorem eq_fresh_of_mem_start {e : Engine} {users : List Int} {w : UserWorker}
    (mem : w ∈ (start e users).workers) : w = .fresh :=
  List.eq_of_mem_replicate mem

theorem idle_start (e : Engine) (users : List Int) :
    ∀ w ∈ (start e users).workers, w.task = none := by
  intro w mem
  rw [eq_fresh_of_mem_start mem]
  rfl

/-- Idle workers hold no user. -/
theorem held_eq_nil {r : Round} (idle : ∀ w ∈ r.workers, w.task = none) : r.held = [] := by
  apply List.flatMap_eq_nil_iff.mpr
  intro w mem
  rw [idle w mem]
  rfl

theorem progress_start (e : Engine) (users : List Int) : Progress users (start e users) := by
  refine ⟨rfl, ?_, sum_map_replicate _ _ _ rfl, ?_⟩
  · rw [held_eq_nil (idle_start e users)]; exact .refl _
  · exact (Nat.zero_add _).trans (sum_map_replicate _ _ _ rfl)

theorem Progress.take {users listed queue : List Int} {user : Int} {before after : List UserWorker}
    {report : TickReport} {finished : List (Int × Except Failure UserReport)} {task : UserTask}
    (account : Progress users
      ⟨listed, user :: queue, before ++ ⟨none, report⟩ :: after, finished⟩) :
    Progress users ⟨listed, queue, before ++ ⟨some (user, task), report⟩ :: after, finished⟩ := by
  refine ⟨account.users_eq, List.perm_iff_count.mpr ?_, by simpa using account.totals,
    by simpa using account.counted⟩
  intro u
  have conserved := account.conserved.count_eq u
  simp only [held_place, List.count_append, List.count_cons, Option.map_none, Option.map_some,
    Option.toList_none, Option.toList_some, List.count_nil] at conserved ⊢
  omega

theorem Progress.finish {users listed queue : List Int} {user : Int}
    {before after : List UserWorker} {report : TickReport}
    {finished : List (Int × Except Failure UserReport)} {result : Except Failure UserReport}
    {task : UserTask} (account : Progress users
      ⟨listed, queue, before ++ ⟨some (user, task), report⟩ :: after, finished⟩) :
    Progress users ⟨listed, queue, before ++ ⟨none, report.absorb result⟩ :: after,
      finished ++ [(user, result)]⟩ := by
  obtain ⟨users_eq, conserved, totals, counted⟩ := account
  refine ⟨users_eq, List.perm_iff_count.mpr ?_, ?_, ?_⟩
  · intro u
    have conserved := conserved.count_eq u
    simp only [held_place, List.map_append, List.map_cons, List.map_nil, List.count_append,
      List.count_cons, Option.map_none, Option.map_some, Option.toList_none, Option.toList_some,
      List.count_nil] at conserved ⊢
    omega
  · simp only [List.map_append, List.map_cons, List.sum_append, List.sum_cons] at totals ⊢
    cases result with
    | ok more =>
      simp only [succeeded_concat_ok, List.sum_append, List.sum_singleton, ← totals,
        TickReport.absorb]
      ac_rfl
    | error failure => rw [succeeded_concat_error, ← totals, TickReport.absorb]
  · simp only [List.map_append, List.map_cons, List.sum_append, List.sum_cons, List.length_append,
      List.length_singleton] at counted ⊢
    cases result with
    | ok more =>
      simp only [succeeded_concat_ok, List.length_append, List.length_singleton, TickReport.absorb]
      omega
    | error failure =>
      simp only [succeeded_concat_error, TickReport.absorb]
      omega

/-- Every move keeps the account. -/
theorem Progress.move {e : Engine} {today : Date} {t : Turn} {users : List Int}
    {a b : Round × World} (account : Progress users a.1) (move : Move e today t a b) :
    Progress users b.1 := by
  cases move with
  | take => exact account.take
  | work =>
    obtain ⟨users_eq, conserved, totals, counted⟩ := account
    rw [held_place] at conserved
    exact ⟨users_eq, by rwa [held_place], by simpa using totals, by simpa using counted⟩
  | finish => exact account.finish

/-- The account of a whole tick, whoever takes the turns. -/
theorem progress_of_runs {e : Engine} {today : Date} {users : List Int} {world : World}
    {b : Round × World} (ran : Runs (step e today) (start e users, world) b) :
    Progress users b.1 := by
  induction ran with
  | refl => exact progress_start e users
  | tail _ led ih =>
    obtain ⟨t, stepped⟩ := led
    exact ih.move (step_eq_some_iff.mp stepped)

theorem report_eq (r : Round) :
    r.report = ⟨r.users.length, (r.workers.map (·.report.usersFailed)).sum,
      (r.workers.map (·.report.totals)).sum⟩ := by
  have from_total : ∀ (workers : List UserWorker) (total : TickReport),
      workers.foldl (fun total w => total.merge w.report) total =
        ⟨total.users, total.usersFailed + (workers.map (·.report.usersFailed)).sum,
          total.totals + (workers.map (·.report.totals)).sum⟩ := by
    intro workers
    induction workers with
    | nil => intro total; simp
    | cons w rest ih =>
      intro total
      rw [List.foldl_cons, ih]
      simp only [TickReport.merge, List.map_cons, List.sum_cons, add_assoc]
  rw [report, from_total]
  simp only [TickReport.mk.injEq, true_and]
  exact ⟨Nat.zero_add _, zero_add _⟩

end Round

end Reminders
