import Reminders.Policy.Update
import Reminders.Scheduler.Round
import Reminders.Scheduler.Summary
import Reminders.Store.Text

/-!
A store in use.

Between ticks, and also while one goes on, others use the store: users, subscriptions and channels
are added, channels are turned on and off, policies change, dashboards are shown, and the store is
closed and opened again. `System.Step` is whatever happens next. Nothing but a tick writes into the
delivery log, and nothing keeps a tick from doing so but the tables themselves.
-/

namespace Reminders

/-- The store after its text was kept and read again. A text that cannot be read stays as it is. -/
def Store.reopened (s : Store) : Store := (Store.ofText? s.toText).getD s

/-- A use of the store by others than the scheduler. -/
inductive Operation where
  | createUser (email : String)
  | insertSubscription (sub : Subscription)
  | insertChannel (user : Int) (type : ChannelType) (config : Json) (template : Option String)
  | setChannelEnabled (channel : Int) (enabled : Bool)
  | upsertPolicy (policy : Policy)
  | updatePolicy (user : Int) (update : PolicyUpdate)
  | summary (user : Int) (today : Date)
  | reopen

/-- The store after a write that may have failed. -/
def Store.after (s : Store) : Except StoreError (α × Store) → Store
  | .ok (_, written) => written
  | .error _ => s

/-- The store after an operation, some of whose calls may be refused. -/
def Operation.perform (desk : Desk) (s : Store) : Operation → Store
  | .createUser email => s.after (s.createUser email)
  | .insertSubscription sub => s.after (s.insertSubscription sub)
  | .insertChannel user type config template =>
    s.after (s.insertChannel user type config template)
  | .setChannelEnabled channel enabled => s.setChannelEnabled channel enabled
  | .upsertPolicy policy => s.after ((s.upsertPolicy policy).map ((), ·))
  | .updatePolicy user update => ((Script.updatePolicy user update).run desk s).2
  | .summary user today => ((Script.summary user today).run desk s).2
  | .reopen => s.reopened

/-- A tick that goes on. -/
structure Ticking where
  engine : Engine
  today : Date
  round : Round

/-- A store in use, with the tick that goes on if there is one. -/
structure System where
  world : World
  ticking : Option Ticking

namespace System

/-- A store without rows, before anything has happened. -/
def initial : System := ⟨⟨.empty, []⟩, none⟩

/-- What happens next. A tick may be on any day, also on an earlier one than the tick before it, and
with another configuration. One whose users cannot be listed does nothing. -/
inductive Step : System → System → Prop
  | operate (operation : Operation) (desk : Desk) (world : World) (ticking : Option Ticking) :
      Step ⟨world, ticking⟩ ⟨{ world with store := operation.perform desk world.store }, ticking⟩
  | start (e : Engine) (today : Date) {world : World} {users : List Int}
      (listed : world.store.listUsers = .ok users) :
      Step ⟨world, none⟩ ⟨world, some ⟨e, today, .start e users⟩⟩
  | turn {e : Engine} {today : Date} {t : Turn} {round round' : Round} {world world' : World}
      (keepsLog : t.KeepsLog) (step : round.step e today t world = some (round', world')) :
      Step ⟨world, some ⟨e, today, round⟩⟩ ⟨world', some ⟨e, today, round'⟩⟩
  | finish {e : Engine} {today : Date} {round : Round} {world : World} (ended : round.IsOver) :
      Step ⟨world, some ⟨e, today, round⟩⟩ ⟨world, none⟩

end System

end Reminders
