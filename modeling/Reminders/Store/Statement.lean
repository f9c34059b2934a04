import Reminders.Store.Overwrite

/-!
Statements.

The store changes its tables by statements, one for each way of writing into them. A statement is
carried out as a whole or not at all: the columns, the unique values and the references to users are
checked with it, and one that is refused leaves the tables as they were. It may also be refused
before it reaches the tables, as when they are locked.
-/

namespace Reminders

/-- A write into the tables. Removing a user also removes what belongs to the user. -/
inductive Statement where
  | createUser (email : String)
  | deleteUser (user : Int)
  | insertSubscription (sub : Subscription)
  | updateNextOccurrence (subscription : Int) (date : Date)
  | insertChannel (user : Int) (type : ChannelType) (config : Json) (template : Option String)
  | setChannelEnabled (channel : Int) (enabled : Bool)
  | upsertPolicy (policy : Policy)
  | insertLog (entry : LogEntry)

namespace Statement

/-- The table that the id which is given back belongs to. -/
def issues : Statement → Option StoredTable
  | .createUser _ => some .users
  | .insertSubscription _ => some .subscriptions
  | .insertChannel _ _ _ _ => some .channels
  | _ => none

/-- What the tables make of a statement: the id that it gives back, and the tables after it. -/
def run (s : Store) : Statement → Except StoreError (Option Int × Store)
  | .createUser email => (s.createUser email).map fun (id, s) => (some id, s)
  | .deleteUser user => .ok (none, s.deleteUser user)
  | .insertSubscription sub => (s.insertSubscription sub).map fun (id, s) => (some id, s)
  | .updateNextOccurrence subscription date => .ok (none, s.updateNextOccurrence subscription date)
  | .insertChannel user type config template =>
    (s.insertChannel user type config template).map fun (id, s) => (some id, s)
  | .setChannelEnabled channel enabled => .ok (none, s.setChannelEnabled channel enabled)
  | .upsertPolicy policy => (s.upsertPolicy policy).map (none, ·)
  | .insertLog entry => (s.insertLog entry).map (none, ·)

end Statement

/-- Carries out a statement, unless there is a reason to refuse it beforehand. -/
def Store.execute (s : Store) (refusal : Option String) (statement : Statement) :
    Except StoreError (Option Int) × Store :=
  match refusal with
  | some reason => (.error (.refused reason), s)
  | none =>
    match statement.run s with
    | .ok (id, s) => (.ok id, s)
    | .error e => (.error e, s)

end Reminders
