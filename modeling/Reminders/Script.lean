import Reminders.Failure

/-!
Scripts.

What the scheduler does to the store it does by calls, one at a time, and between two calls others
may use the store. A `Script` is such a piece of work: it gives a result, fails, or makes a call and
goes on from the reply. `Script.run` plays a script on a store by itself; a `Desk` may refuse calls
before they reach the tables.
-/

namespace Reminders

/-- A call of the store. -/
inductive StoreCall where
  | listUsers
  | findUserEmail (user : Int)
  | findOverdue (user : Int) (before : Date)
  | updateNextOccurrence (subscription : Int) (date : Date)
  | findNotifiable (user : Int)
  | findSubscriptions (user : Int)
  | findChannels (user : Int)
  | findPolicy (user : Int)
  | upsertPolicy (policy : Policy)
  | insertLog (entry : LogEntry)
  | existsSentLog (key : ReminderKey)
deriving DecidableEq

/-- What a call is answered with. -/
def StoreCall.Reply : StoreCall → Type
  | .listUsers => List Int
  | .findUserEmail _ => Option String
  | .findOverdue _ _ => List Subscription
  | .updateNextOccurrence _ _ => Unit
  | .findNotifiable _ => List Subscription
  | .findSubscriptions _ => List Subscription
  | .findChannels _ => List Channel
  | .findPolicy _ => Option Policy
  | .upsertPolicy _ => Unit
  | .insertLog _ => Unit
  | .existsSentLog _ => Bool

/-- The reply of the tables to a call, and the tables after it. -/
def Store.answer (s : Store) : (call : StoreCall) → Except StoreError (call.Reply × Store)
  | .listUsers => s.listUsers.map (·, s)
  | .findUserEmail user => (s.userEmail? user).map (·, s)
  | .findOverdue user before => (s.findOverdue user before).map (·, s)
  | .updateNextOccurrence subscription date => .ok ((), s.updateNextOccurrence subscription date)
  | .findNotifiable user => (s.findNotifiable user).map (·, s)
  | .findSubscriptions user => (s.findSubscriptions user).map (·, s)
  | .findChannels user => (s.findChannels user).map (·, s)
  | .findPolicy user => (s.findPolicy user).map (·, s)
  | .upsertPolicy policy => (s.upsertPolicy policy).map ((), ·)
  | .insertLog entry => (s.insertLog entry).map ((), ·)
  | .existsSentLog key => .ok (decide (s.WasSent key), s)

/-- Decides, call by call, which ones are refused before they reach the tables, and with what
reason. -/
abbrev Desk := StoreCall → Option String

/-- The desk that lets every call through. -/
def Desk.open : Desk := fun _ => none

/-- The reply to a call that passes a desk. -/
def Store.serve (s : Store) (desk : Desk) (call : StoreCall) :
    Except StoreError (call.Reply × Store) :=
  match desk call with
  | some reason => .error (.refused reason)
  | none => s.answer call

/-- A piece of work on the store. -/
inductive Script (α : Type) where
  | done (result : α)
  | fail (failure : Failure)
  | ask (call : StoreCall) (next : call.Reply → Script α)

namespace Script

/-- One piece of work after another. -/
def bind : Script α → (α → Script β) → Script β
  | .done a, f => f a
  | .fail failure, _ => .fail failure
  | .ask call next, f => .ask call fun reply => (next reply).bind f

instance : Monad Script where
  pure := .done
  bind := bind

/-- One call. -/
def call (c : StoreCall) : Script c.Reply := .ask c .done

/-- A result, or the failure that it is. -/
def ofExcept (failure : ε → Failure) : Except ε α → Script α
  | .ok a => .done a
  | .error e => .fail (failure e)

/-- Plays a script. What a failed script wrote before it failed stays written. -/
def run (desk : Desk) (s : Store) : Script α → Except Failure α × Store
  | .done a => (.ok a, s)
  | .fail failure => (.error failure, s)
  | .ask c next =>
    match s.serve desk c with
    | .ok (reply, s) => (next reply).run desk s
    | .error e => (.error (.database e), s)

end Script

end Reminders
