import Reminders.Proofs.Delivery.Crew
import Reminders.Proofs.Scheduler.Preparation
import Reminders.Scheduler.Round

/-!
The run of a user, turn by turn.

A run that succeeds is a preparation, played by itself, and then the run of a crew. The run that
sends one job after the other is one of them. `UserTask.Move` lists what a run can do at a turn.

* `UserTask.step_eq_some_iff`: a step is one of the six moves.
* `UserTask.prepared_of_runs`: the two parts of a run that succeeds.
-/

namespace Reminders.UserTask

/-- What the run of a user may do at a turn. Before sending, its script makes a call, which is
answered or refused, or the script is at an end, and the jobs go to a crew. The crew makes a move, or
is done and the run is reported. -/
inductive Move (e : Engine) (t : Turn) : UserTask × World → UserTask × World → Prop
  | answer {call next world reply store}
      (served : world.store.serve t.desk call = .ok (reply, store)) :
      Move e t (.preparing (.ask call next), world) (.preparing (next reply), { world with store })
  | refuse {call next world error} (served : world.store.serve t.desk call = .error error) :
      Move e t (.preparing (.ask call next), world) (.finished (.error (.database error)), world)
  | fail {failure world} :
      Move e t (.preparing (.fail failure), world) (.finished (.error failure), world)
  | dispatch {p world} : Move e t (.preparing (.done p), world)
      (.dispatching p (.start e.jobConcurrency p.jobs), world)
  | deliver {p crew crew' world world'} (busy : ¬crew.IsOver)
      (move : Crew.Move e.timeout t (crew, world) (crew', world')) :
      Move e t (.dispatching p crew, world) (.dispatching p crew', world')
  | report {p crew world} (ended : crew.IsOver) :
      Move e t (.dispatching p crew, world) (.finished (.ok (p.report crew.stats)), world)

/-- A step is one of the moves. -/
theorem step_eq_some_iff {e : Engine} {t : Turn} {task : UserTask} {world : World}
    {b : UserTask × World} : task.step e t world = some b ↔ Move e t (task, world) b := by
  constructor
  · intro h
    cases task with
    | preparing work =>
      cases work with
      | done p => cases h; exact .dispatch
      | fail failure => cases h; exact .fail
      | ask call next =>
        simp only [UserTask.step] at h
        split at h
        · rename_i reply store served
          cases h
          exact .answer served
        · rename_i error served
          cases h
          exact .refuse served
    | dispatching p crew =>
      simp only [UserTask.step] at h
      split at h
      · rename_i ended
        cases h
        exact .report ended
      · rename_i busy
        obtain ⟨⟨crew', world'⟩, moved, rfl⟩ := Option.map_eq_some_iff.mp h
        exact .deliver busy (Crew.step_eq_some_iff.mp moved)
    | finished result => cases h
  · intro h
    cases h with
    | answer served => simp only [UserTask.step, served]
    | refuse served => simp only [UserTask.step, served]
    | fail => rfl
    | dispatch => rfl
    | deliver busy move =>
      simp only [UserTask.step, if_neg busy, Crew.step_eq_some_iff.mpr move, Option.map_some]
    | report ended => simp only [UserTask.step, if_pos ended]

/-- What a state of the run of a user says about its end, when it ends well. -/
def LeadsTo (e : Engine) (report : UserReport) (last : World) : UserTask × World → Prop
  | (.preparing work, world) =>
    ∃ p store c, work.run .open world.store = (.ok p, store) ∧
      Runs (Crew.step e.timeout) (.start e.jobConcurrency p.jobs, { world with store }) (c, last) ∧
        c.IsOver ∧ report = p.report c.stats
  | (.dispatching p crew, world) =>
    ∃ c, Runs (Crew.step e.timeout) (crew, world) (c, last) ∧ c.IsOver ∧ report = p.report c.stats
  | (.finished result, world) => result = .ok report ∧ world = last

theorem LeadsTo.of_move {e : Engine} {report : UserReport} {last : World} {t : Turn}
    {a b : UserTask × World} (move : Move e t a b) (after : LeadsTo e report last b) :
    LeadsTo e report last a := by
  cases move with
  | answer served =>
    obtain ⟨p, store, c, prepared, rest⟩ := after
    refine ⟨p, store, c, ?_, rest⟩
    simp only [Script.run, Store.serve_open, Store.answer_eq_of_serve_eq_ok served]
    exact prepared
  | refuse => cases after.1
  | fail => cases after.1
  | dispatch =>
    obtain ⟨c, ran, ended, reported⟩ := after
    exact ⟨_, _, c, rfl, ran, ended, reported⟩
  | deliver busy move =>
    obtain ⟨c, ran, rest⟩ := after
    exact ⟨c, .head ⟨t, Crew.step_eq_some_iff.mpr move⟩ ran, rest⟩
  | report ended =>
    obtain ⟨reported, rfl⟩ := after
    exact ⟨_, .refl, ended, (Except.ok.inj reported).symm⟩

theorem leadsTo_of_runs {e : Engine} {report : UserReport} {last : World} {a : UserTask × World}
    (ran : Runs (UserTask.step e) a (.finished (.ok report), last)) : LeadsTo e report last a := by
  induction ran using Relation.ReflTransGen.head_induction_on with
  | refl => exact ⟨rfl, rfl⟩
  | head led _ ih =>
    obtain ⟨t, step⟩ := led
    exact .of_move (step_eq_some_iff.mp step) ih

/-- **The two parts of a run that succeeds**: the preparation, as if it were played by itself, and the
run of the crew. -/
theorem prepared_of_runs {e : Engine} {user : Int} {today : Date} {world last : World}
    {report : UserReport}
    (ran : Runs (UserTask.step e) (.start e user today, world) (.finished (.ok report), last)) :
    ∃ p store c,
      (Script.prepare e.defaultTemplate user today).run .open world.store = (.ok p, store) ∧
      Runs (Crew.step e.timeout) (.start e.jobConcurrency p.jobs, { world with store }) (c, last) ∧
        c.IsOver ∧ report = p.report c.stats :=
  leadsTo_of_runs ran

end Reminders.UserTask
