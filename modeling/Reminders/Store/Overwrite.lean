import Reminders.Store.Basic

/-!
Writes from outside.

Other programs may write into the tables. They are held to the columns (a required value, unique
e-mail addresses, one sent entry for a reminder) and not to the references between tables, so what
they leave may not be readable as a record. The values they write are those of `Cell`.
-/

namespace Reminders

/-- A table of the store. -/
inductive StoredTable where
  | users | subscriptions | policies | channels | logs
deriving DecidableEq

/-- A column of the store. -/
inductive StoredColumn where
  | user (column : UserColumn)
  | subscription (column : SubscriptionColumn)
  | policy (column : PolicyColumn)
  | channel (column : ChannelColumn)
  | log (column : LogColumn)
deriving DecidableEq

/-- The column with a name. -/
def Columns.ofName? [Columns κ] (name : String) : Option κ :=
  (Columns.all : List κ).find? (Columns.name · = name)

namespace StoredTable

/-- The table with a name. -/
def ofName? (name : String) : Option StoredTable :=
  if name = Columns.table UserColumn then some users
  else if name = Columns.table SubscriptionColumn then some subscriptions
  else if name = Columns.table PolicyColumn then some policies
  else if name = Columns.table ChannelColumn then some channels
  else if name = Columns.table LogColumn then some logs
  else none

/-- The column of a table with a name. -/
def column? (name : String) : StoredTable → Option StoredColumn
  | users => (Columns.ofName? name).map .user
  | subscriptions => (Columns.ofName? name).map .subscription
  | policies => (Columns.ofName? name).map .policy
  | channels => (Columns.ofName? name).map .channel
  | logs => (Columns.ofName? name).map .log

end StoredTable

/-- Two cells hold the same value. Cells that hold nothing are never the same. -/
def Cell.Same : Cell → Cell → Prop
  | .integer m, .integer n => m = n
  | .real x, .real y => x.toBits = y.toBits
  | .text s, .text t => s = t
  | _, _ => False

instance (a b : Cell) : Decidable (a.Same b) :=
  match a, b with
  | .integer m, .integer n => Int.instDecidableEq m n
  | .real x, .real y => instDecidableEqUInt64 x.toBits y.toBits
  | .text s, .text t => instDecidableEqString s t
  | .null, _ => .isFalse id
  | .integer _, .null | .integer _, .real _ | .integer _, .text _ => .isFalse id
  | .real _, .null | .real _, .integer _ | .real _, .text _ => .isFalse id
  | .text _, .null | .text _, .integer _ | .text _, .real _ => .isFalse id

/-- The table with a value in one column of the row with an id, and the number of rows changed. -/
def Table.overwrite [DecidableEq κ] [Columns κ] (t : Table κ) (id : Int) (k : κ) (value : Cell) :
    Except TableFault (Nat × Table κ) :=
  match t.find? id with
  | none => .ok (0, t)
  | some _ =>
    let value := Cell.store (Columns.affinity k) value
    if Columns.required k ∧ value.IsNull then .error (.notNull (Columns.fullName k))
    else .ok (1, t.set id k value)

/-- Another user has the same e-mail address. -/
def UserRepeats (t : Table UserColumn) : Prop :=
  ∃ a ∈ t.rows, ∃ b ∈ t.rows, a.id ≠ b.id ∧ (a.cell .email).Same (b.cell .email)

instance (t : Table UserColumn) : Decidable (UserRepeats t) :=
  inferInstanceAs (Decidable (∃ a ∈ _, ∃ b ∈ _, _ ∧ _))

/-- Two entries say that the same reminder was sent. -/
def SentRepeats (t : Table LogColumn) : Prop :=
  ∃ a ∈ t.rows, ∃ b ∈ t.rows, a.id ≠ b.id ∧ (a.cell .status).IsText DeliveryStatus.sent.tag ∧
    (b.cell .status).IsText DeliveryStatus.sent.tag ∧
    (a.cell .subscriptionId).Same (b.cell .subscriptionId) ∧
    (a.cell .channelType).Same (b.cell .channelType) ∧ (a.cell .notifyDate).Same (b.cell .notifyDate)

instance (t : Table LogColumn) : Decidable (SentRepeats t) :=
  inferInstanceAs (Decidable (∃ a ∈ _, ∃ b ∈ _, _ ∧ _))

namespace Store

/-- Puts a value into one column of the row with an id. Gives the number of rows changed. -/
def overwrite (s : Store) (id : Int) (value : Cell) : StoredColumn → Except TableFault (Nat × Store)
  | .user k => do
    let (changed, users) ← s.users.overwrite id k value
    if UserRepeats users then throw (.notUnique ["users.email"])
    return (changed, { s with users })
  | .subscription k => do
    let (changed, subscriptions) ← s.subscriptions.overwrite id k value
    return (changed, { s with subscriptions })
  | .policy k => do
    let (changed, policies) ← s.policies.overwrite id k value
    return (changed, { s with policies })
  | .channel k => do
    let (changed, channels) ← s.channels.overwrite id k value
    return (changed, { s with channels })
  | .log k => do
    let (changed, logs) ← s.logs.overwrite id k value
    if SentRepeats logs then throw (.notUnique sentKeyColumns)
    return (changed, { s with logs })

/-- Removes the row with an id and nothing else. Gives the number of rows removed. -/
def eraseRow (s : Store) (id : Int) : StoredTable → Nat × Store
  | .users => (count s.users, { s with users := erase s.users })
  | .subscriptions => (count s.subscriptions, { s with subscriptions := erase s.subscriptions })
  | .policies => (count s.policies, { s with policies := erase s.policies })
  | .channels => (count s.channels, { s with channels := erase s.channels })
  | .logs => (count s.logs, { s with logs := erase s.logs })
where
  count {κ : Type} (t : Table κ) : Nat := (t.find? id).toList.length
  erase {κ : Type} (t : Table κ) : Table κ := t.eraseWhere fun r => r.id = id

end Store

end Reminders
