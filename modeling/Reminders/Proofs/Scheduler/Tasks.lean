import Reminders.Proofs.Delivery.Ledger
import Reminders.Proofs.Scheduler.Round
import Reminders.Proofs.Script.Confined

/-!
The runs of a tick.

A tick is a bag of runs, one for each user: those that wait, those that workers hold and those that
are finished. A turn lets one of them go on, or only moves a run from one place to another. Each run
keeps to the part of its user, so what it relies on is not undone by the others.

* `UserTask.Confined.step`: what one run does to the store.
* `Round.Move.tasks`: what a turn does to the bag.
* `Round.keeps`: what every run keeps, beside the others, the tick keeps.
-/

namespace Reminders

open Store

namespace UserTask

variable {user other : Int} {s t : Store} {task task' : UserTask} {world world' : World}

/-- The run keeps to the part of its user: what is left of its preparation is confined, and the jobs
at hand are the user's. -/
def Confined (user : Int) (s : Store) : UserTask → Prop
  | .preparing work => work.Confined user (fun p s => ∀ job ∈ p.jobs, Script.Theirs user s job) s
  | .dispatching _ crew => ∀ job ∈ crew.atHand, Script.Theirs user s job
  | .finished _ => True

theorem confined_start (e : Engine) (user : Int) (today : Date) (s : Store) :
    (start e user today).Confined user s :=
  Script.confined_prepare e.defaultTemplate user today s

theorem Confined.sameFor (confined : task.Confined user s) (same : SameFor user s t) :
    task.Confined user t := by
  cases task with
  | preparing work =>
    refine Script.Confined.sameFor confined (fun p s t same theirs job mem => ?_) same
    exact (theirs job mem).sameFor same
  | dispatching p crew => exact fun job mem => (confined job mem).sameFor same
  | finished result => trivial

/-- **A step of a run** keeps it confined, moves one date at most, and leaves the parts of others
alone. -/
theorem Confined.step {e : Engine} {t : Turn} (confined : task.Confined user world.store)
    (stepped : task.step e t world = some (task', world')) :
    task'.Confined user world'.store ∧ world.store.Moves world'.store ∧
      ∀ other, other ≠ user → SameFor other world.store world'.store := by
  cases step_eq_some_iff.mp stepped with
  | answer served =>
    obtain ⟨permits, rest⟩ := confined
    have answered := answer_eq_of_serve_eq_ok served
    exact ⟨rest _ _ answered, moves_of_answer permits answered,
      fun other different => sameFor_of_answer permits answered different⟩
  | refuse => exact ⟨trivial, .refl _, fun other _ => .refl other _⟩
  | fail => exact ⟨trivial, .refl _, fun other _ => .refl other _⟩
  | dispatch =>
    refine ⟨?_, .refl _, fun other _ => .refl other _⟩
    rw [Confined, Crew.atHand_start]
    exact confined
  | deliver busy move =>
    obtain ⟨fewer, unchanged | ⟨job, atHand, outcome, logged⟩⟩ := move.atHand
    · simp only at unchanged
      rw [unchanged]
      exact ⟨fun job mem => confined job (fewer job mem), .refl _, fun other _ => .refl other _⟩
    · simp only at logged
      rw [logged]
      have theirs := confined job atHand
      exact ⟨fun job mem => confined job (fewer job mem), .inl rfl,
        fun other different => sameFor_logged theirs.1 different⟩
  | report => exact ⟨trivial, .refl _, fun other _ => .refl other _⟩

end UserTask

namespace Round

variable {e : Engine} {today : Date} {t : Turn} {a b : Round × World}

/-- The runs of a tick with their users: those that wait, those that workers hold, and those that are
finished. -/
def tasks (e : Engine) (today : Date) (r : Round) : List (Int × UserTask) :=
  r.queue.map (fun user => (user, .start e user today)) ++
    r.workers.flatMap (fun w => w.task.toList) ++
      r.finished.map fun (user, result) => (user, .finished result)

/-- At the start every run waits. -/
theorem tasks_start (e : Engine) (today : Date) (users : List Int) :
    (start e users).tasks e today = users.map fun user => (user, .start e user today) := by
  have none : (start e users).workers.flatMap (fun w => w.task.toList) = [] := by
    apply List.flatMap_eq_nil_iff.mpr
    intro w mem
    rw [idle_start e users w mem]
    rfl
  rw [tasks, none]
  simp [start]

theorem map_fst_tasks_start (e : Engine) (today : Date) (users : List Int) :
    ((start e users).tasks e today).map Prod.fst = users := by
  rw [tasks_start, List.map_map]
  exact List.map_id users

/-- The runs of a tick, with the one that a worker holds in front. -/
theorem tasks_place (users queue : List Int) (before after : List UserWorker) (w : UserWorker)
    (finished : List (Int × Except Failure UserReport)) :
    (tasks e today ⟨users, queue, before ++ w :: after, finished⟩).Perm
      (w.task.toList ++ tasks e today ⟨users, queue, before ++ after, finished⟩) := by
  simp only [tasks, List.flatMap_append, List.flatMap_cons, List.append_assoc]
  exact ((List.perm_append_comm_assoc _ _ _).append_left _).trans (List.perm_append_comm_assoc _ _ _)

/-- **A turn of a tick** lets one run go on, or moves a run from one place to another. -/
theorem Move.tasks (move : Move e today t a b) :
    (∃ user task task' rest, (a.1.tasks e today).Perm ((user, task) :: rest) ∧
      (b.1.tasks e today).Perm ((user, task') :: rest) ∧
        task.step e t a.2 = some (task', b.2)) ∨
      ((b.1.tasks e today).Perm (a.1.tasks e today) ∧ b.2 = a.2) := by
  cases move with
  | work place step => exact .inl ⟨_, _, _, _, tasks_place .., tasks_place .., step⟩
  | take =>
    refine .inr ⟨(tasks_place ..).trans ((?_ : List.Perm _ _).trans (tasks_place ..).symm), rfl⟩
    exact .refl _
  | finish =>
    refine .inr ⟨(tasks_place ..).trans ((?_ : List.Perm _ _).trans (tasks_place ..).symm), rfl⟩
    simp only [Round.tasks, List.map_append, Option.toList_none, Option.toList_some,
      List.nil_append, ← List.append_assoc]
    exact List.perm_append_singleton _ _

/-- **What every run keeps beside the others, the tick keeps.** -/
theorem keeps {I : Int → UserTask → World → Prop}
    (own : ∀ user task task' world world', I user task world →
      task.step e t world = some (task', world') →
        I user task' world' ∧ ∀ other task, other ≠ user → I other task world → I other task world')
    (distinct : ((a.1.tasks e today).map Prod.fst).Nodup)
    (all : ∀ p ∈ a.1.tasks e today, I p.1 p.2 a.2) (move : Move e today t a b) :
    ∀ p ∈ b.1.tasks e today, I p.1 p.2 b.2 := by
  rcases move.tasks with ⟨user, task, task', rest, before, after, step⟩ | ⟨same, world⟩
  · have distinct : (((user, task) :: rest).map Prod.fst).Nodup :=
      (before.map Prod.fst).nodup_iff.mp distinct
    obtain ⟨alone, -⟩ := List.nodup_cons.mp distinct
    have first := all _ (before.mem_iff.mpr List.mem_cons_self)
    obtain ⟨kept, others⟩ := own user task task' a.2 b.2 first step
    intro p mem
    rcases List.mem_cons.mp (after.mem_iff.mp mem) with rfl | mem
    · exact kept
    · refine others p.1 p.2 ?_ (all p (before.mem_iff.mpr (List.mem_cons_of_mem _ mem)))
      intro same
      exact alone (List.mem_map.mpr ⟨p, mem, same⟩)
  · intro p mem
    rw [world]
    exact all p (same.mem_iff.mp mem)

end Round

end Reminders
