import Reminders.Scheduler.Round
import Reminders.Scheduler.Summary

/-!
The scheduler at work.

The scheduler does one piece of work after another: a tick, the run of one user, moving a user's
subscriptions forward, or a dashboard. Each is on a day of its own, which may be earlier than the day
before. `Scheduler.Step` is whatever happens next: a piece of work starts, goes on by one turn, or
is over, perhaps before its end.
-/

namespace Reminders

/-- The next call of a script, which a desk may refuse. -/
def Script.next (desk : Desk) (s : Store) : Script α → Option (Script α × Store)
  | .done _ | .fail _ => none
  | .ask call next =>
    match s.serve desk call with
    | .ok (reply, s) => some (next reply, s)
    | .error e => some (.fail (.database e), s)

/-- A piece of work that goes on. -/
inductive Work where
  | tick (e : Engine) (today : Date) (round : Round)
  | run (e : Engine) (user : Int) (task : UserTask)
  | advance (user : Int) (rest : Script Nat)
  | dashboard (user : Int) (rest : Script Summary)

/-- What a piece of work does next. -/
def Work.step (t : Turn) : Work → World → Option (Work × World)
  | .tick e today round, world =>
    (round.step e today t world).map fun (round, world) => (.tick e today round, world)
  | .run e user task, world =>
    (task.step e t world).map fun (task, world) => (.run e user task, world)
  | .advance user rest, world =>
    (rest.next t.desk world.store).map fun (rest, store) =>
      (.advance user rest, { world with store })
  | .dashboard user rest, world =>
    (rest.next t.desk world.store).map fun (rest, store) =>
      (.dashboard user rest, { world with store })

/-- A store and the piece of work that goes on, if there is one. -/
structure Scheduler where
  world : World
  work : Option Work

namespace Scheduler

/-- What happens next. A tick whose users cannot be listed does nothing. -/
inductive Step : Scheduler → Scheduler → Prop
  | tick (e : Engine) (today : Date) {world : World} {users : List Int}
      (listed : world.store.listUsers = .ok users) :
      Step ⟨world, none⟩ ⟨world, some (.tick e today (.start e users))⟩
  | run (e : Engine) (user : Int) (today : Date) (world : World) :
      Step ⟨world, none⟩ ⟨world, some (.run e user (.start e user today))⟩
  | advance (user : Int) (today : Date) (world : World) :
      Step ⟨world, none⟩ ⟨world, some (.advance user (Script.advanceUser user today))⟩
  | dashboard (user : Int) (today : Date) (world : World) :
      Step ⟨world, none⟩ ⟨world, some (.dashboard user (Script.summary user today))⟩
  | turn (t : Turn) {work work' : Work} {world world' : World}
      (step : work.step t world = some (work', world')) :
      Step ⟨world, some work⟩ ⟨world', some work'⟩
  | stop (work : Work) (world : World) : Step ⟨world, some work⟩ ⟨world, none⟩

end Scheduler

end Reminders
