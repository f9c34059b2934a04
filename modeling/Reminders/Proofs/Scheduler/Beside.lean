import Reminders.Proofs.Scheduler.AtMostOnce
import Reminders.Proofs.Scheduler.Growth

/-!
The runs of a tick, one beside the other.

What is true of the run of a user is kept in a tick when its own steps keep it and the steps of the
others do not undo it. That is shown once here, for any such property, with the ticks that the
properties are about.

* `UserTask.Kept`: what a run keeps, beside others.
* `Round.Beside.move`, `Round.beside_of_reached`: a tick keeps it for all of its runs.
* `Engine.TicksTo`, `Engine.Ends`: how far a tick may get, and how it may end.
* `Engine.ticks_tick`: the tick that runs one user after the other is one that ends.
-/

namespace Reminders

open Store

/-- What is true of the run of a user is kept in the turns that are allowed: by the steps of the run,
and by whatever is nothing to the user. -/
structure UserTask.Kept (e : Engine) (allowed : Turn → Prop) (I : Int → UserTask → World → Prop) :
    Prop where
  step {t : Turn} {user : Int} {task task' : UserTask} {w w' : World} (turn : allowed t)
    (holds : I user task w) (stepped : task.step e t w = some (task', w')) : I user task' w'
  sameFor {user : Int} {task : UserTask} {w w' : World} (holds : I user task w)
    (same : World.SameFor user w w') : I user task w'
  confined {user : Int} {task : UserTask} {w : World} (holds : I user task w) :
    task.Confined user w.store

namespace Round

/-- The tick goes from one state to another in turns that are allowed. -/
abbrev Reaches (e : Engine) (today : Date) (allowed : Turn → Prop) :
    Round × World → Round × World → Prop :=
  Relation.ReflTransGen fun a b => ∃ t, allowed t ∧ a.1.step e today t a.2 = some b

/-- A tick that started on a store for some users, in which something is true of the run of each of
them. -/
structure Beside (I : Int → UserTask → World → Prop) (e : Engine) (today : Date) (s : Store)
    (order : List Int) (r : Round) (w : World) : Prop where
  distinct : ((r.tasks e today).map Prod.fst).Nodup
  holds : ∀ x ∈ r.tasks e today, I x.1 x.2 w
  users : ((r.tasks e today).map Prod.fst).Perm order
  others : ∀ user, user ∉ order → World.SameFor user ⟨s, []⟩ w
  worked : s.Worked w.store

variable {I : Int → UserTask → World → Prop} {e : Engine} {today : Date} {t : Turn} {s : Store}
  {allowed : Turn → Prop} {order : List Int} {a b : Round × World} {r : Round} {w : World}

theorem beside_start (e : Engine) (today : Date) (s : Store) (distinct : order.Nodup)
    (holds : ∀ user, I user (.start e user today) ⟨s, []⟩) :
    Beside I e today s order (start e order) ⟨s, []⟩ := by
  have users := map_fst_tasks_start e today order
  refine ⟨by rwa [users], ?_, by rw [users], fun user _ => .refl user _, .refl s⟩
  intro x mem
  rw [tasks_start] at mem
  obtain ⟨user, -, rfl⟩ := List.mem_map.mp mem
  exact holds user

/-- **What one run keeps beside the others, a tick keeps for all of them.** -/
theorem Beside.move (kept : UserTask.Kept e allowed I) (turn : allowed t)
    (beside : Beside I e today s order a.1 a.2) (move : Move e today t a b) :
    Beside I e today s order b.1 b.2 := by
  have holds := Round.keeps (I := I) (fun user task task' w w' own stepped =>
      ⟨kept.step turn own stepped, fun other _ different theirs =>
        kept.sameFor theirs ((kept.confined own).others stepped different)⟩)
    beside.distinct beside.holds move
  rcases move.tasks with ⟨user, task, task', rest, before, after, step⟩ | ⟨same, world⟩
  · have users : ((b.1.tasks e today).map Prod.fst).Perm ((a.1.tasks e today).map Prod.fst) :=
      (after.map Prod.fst).trans (before.map Prod.fst).symm
    have held : (user, task) ∈ a.1.tasks e today := before.mem_iff.mpr List.mem_cons_self
    have confined := kept.confined (beside.holds _ held)
    refine ⟨users.nodup_iff.mpr beside.distinct, holds, users.trans beside.users, ?_,
      beside.worked.trans (confined.worked step)⟩
    intro other absent
    refine (beside.others other absent).trans (confined.others step ?_)
    rintro rfl
    exact absent (beside.users.mem_iff.mp (List.mem_map.mpr ⟨_, held, rfl⟩))
  · have users := same.map Prod.fst
    refine ⟨users.nodup_iff.mpr beside.distinct, holds, users.trans beside.users, ?_, ?_⟩
    · rw [world]
      exact beside.others
    · rw [world]
      exact beside.worked

/-- What the runs keep is true of them however far the tick has got, whoever took the turns. -/
theorem beside_of_reached (kept : UserTask.Kept e allowed I)
    (holds : ∀ user, I user (.start e user today) ⟨s, []⟩) (distinct : order.Nodup)
    (ran : Reaches e today allowed (start e order, ⟨s, []⟩) b) :
    Beside I e today s order b.1 b.2 ∧ Progress order b.1 := by
  induction ran with
  | refl => exact ⟨beside_start e today s distinct holds, progress_start e order⟩
  | tail _ led ih =>
    obtain ⟨t, turn, stepped⟩ := led
    have move := step_eq_some_iff.mp stepped
    exact ⟨ih.1.move kept turn move, ih.2.move move⟩

/-- When a tick is over, all its runs are finished. -/
theorem tasks_eq_finished (ended : r.IsOver) :
    r.tasks e today = r.finished.map fun (user, result) => (user, .finished result) := by
  have none : r.workers.flatMap (fun w => w.task.toList) = [] := by
    apply List.flatMap_eq_nil_iff.mpr
    intro w mem
    rw [ended.2 w mem]
    rfl
  rw [tasks, ended.1, none]
  rfl

end Round

/-! ### Ticks -/

theorem Store.listUsers_of_serve {s s' : Store} {desk : Desk} {users : List Int}
    (served : s.serve desk .listUsers = .ok (users, s')) : s.listUsers = .ok users ∧ s' = s :=
  Script.map_store_eq_ok_iff.mp (answer_eq_of_serve_eq_ok served)

/-- The turn has this sender and this desk. -/
abbrev Turn.With (sender : Sender) (desk : Desk) (t : Turn) : Prop :=
  t.sender = sender ∧ t.desk = desk

namespace Engine

/-- A tick on a day, which started from a store and in which allowed turns were taken, has got this
far. Its users were listed, and are taken in some order. -/
def TicksTo (e : Engine) (allowed : Turn → Prop) (today : Date) (s : Store) (r : Round) (w : World) :
    Prop :=
  ∃ users order : List Int, s.listUsers = .ok users ∧ order.Perm users ∧
    Round.Reaches e today allowed (Round.start e order, ⟨s, []⟩) (r, w)

/-- A tick on a day from its start to its end, in which allowed turns were taken. When the desk or the
store does not list the users, nothing is done. -/
inductive Ends (e : Engine) (desk : Desk) (allowed : Turn → Prop) (today : Date) (s : Store) :
    TickReport → World → Prop
  | refused {error : StoreError} (refused : s.serve desk .listUsers = .error error) :
      Ends e desk allowed today s .zero ⟨s, []⟩
  | drained {r : Round} {w : World} (asks : desk .listUsers = none)
      (ticks : e.TicksTo allowed today s r w) (ended : r.IsOver) :
      Ends e desk allowed today s r.report w

/-- A tick with one sender and one desk from its start to its end, whoever takes the turns, at
whatever times, and in whatever order the users are taken. -/
abbrev Ticks (e : Engine) (sender : Sender) (desk : Desk) (today : Date) (s : Store) :
    TickReport → World → Prop :=
  e.Ends desk (Turn.With sender desk) today s

variable {e : Engine} {desk : Desk} {allowed allowed' : Turn → Prop} {today : Date} {s : Store}
  {r : Round} {w : World} {report : TickReport} {I : Int → UserTask → World → Prop}

/-- **What every run keeps is true of the runs of a tick**, however far it has got. -/
theorem TicksTo.beside (ticks : e.TicksTo allowed today s r w) (kept : UserTask.Kept e allowed I)
    (holds : ∀ user, I user (.start e user today) ⟨s, []⟩) :
    ∃ order : List Int, (∃ users, s.listUsers = .ok users ∧ order.Perm users) ∧
      Round.Beside I e today s order r w ∧ Round.Progress order r := by
  obtain ⟨users, order, listed, drawn, ran⟩ := ticks
  have distinct : order.Nodup := drawn.nodup_iff.mpr (nodup_listUsers listed)
  exact ⟨order, ⟨users, listed, drawn⟩, Round.beside_of_reached kept holds distinct ran⟩

/-- More turns may be allowed. -/
theorem Ends.mono (ticked : e.Ends desk allowed today s report w)
    (more : ∀ t, allowed t → allowed' t) : e.Ends desk allowed' today s report w := by
  cases ticked with
  | refused refused => exact .refused refused
  | drained asks ticks ended =>
    obtain ⟨users, order, listed, drawn, ran⟩ := ticks
    refine .drained asks ⟨users, order, listed, drawn, ?_⟩ ended
    exact Relation.ReflTransGen.mono (fun _ _ ⟨t, turn, stepped⟩ => ⟨t, more t turn, stepped⟩) _ _ ran

/-- **The tick that runs one user after the other** is one that ends. -/
theorem ticks_tick (e : Engine) (sender : Sender) (desk : Desk) (now : Instant) (today : Date)
    (s : Store) : ∃ events, e.Ticks sender desk today s (e.tick sender desk now s today).report
      ⟨(e.tick sender desk now s today).store, events⟩ ∧
        callsOf events = (e.tick sender desk now s today).sent := by
  cases listed : s.serve desk .listUsers with
  | error refused =>
    refine ⟨[], ?_⟩
    simp only [tick, listed]
    exact ⟨.refused listed, rfl⟩
  | ok served =>
    obtain ⟨users, s'⟩ := served
    obtain ⟨found, rfl⟩ := listUsers_of_serve listed
    obtain ⟨round, events, ran, ended, report, calls⟩ :=
      e.runs_tick sender desk now s' s' today users listed
    refine ⟨events, ?_, calls⟩
    rw [← report]
    refine .drained (serve_eq_ok_iff.mp listed).1 ⟨users, users, found, .refl users, ?_⟩ ended
    refine Relation.ReflTransGen.mono ?_ _ _ ran
    intro a b stepped
    exact ⟨.first sender desk now, ⟨rfl, rfl⟩, stepped⟩

end Engine

end Reminders
