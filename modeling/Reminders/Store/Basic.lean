import Reminders.Store.Rows

/-!
The store.

The store keeps users, subscriptions, policies, channels and the delivery log in five tables. A
write either succeeds or leaves every table as it was: e-mail addresses are unique, the rows of a
user need the user, and the log holds at most one entry of a reminder that was sent. The log does
not refer to users, so it outlives them.

Dates are compared as texts where overdue subscriptions are looked for.
-/

namespace Reminders

/-- The five tables. -/
structure Store where
  users : Table UserColumn
  subscriptions : Table SubscriptionColumn
  policies : Table PolicyColumn
  channels : Table ChannelColumn
  logs : Table LogColumn

/-- Why the store refuses a call. -/
inductive StoreError where
  /-- The tables refused what was being done. -/
  | fault (doing : String) (cause : TableFault)
  /-- A row cannot be understood. -/
  | defect (cause : RowDefect)
  /-- The call was refused before it reached the tables. -/
  | refused (reason : String)
deriving DecidableEq

/-- The wording of an error. -/
def StoreError.message : StoreError → String
  | fault doing cause => doing ++ ": " ++ cause.message
  | defect cause => cause.message
  | refused reason => reason

namespace Store

/-- The store without rows. -/
def empty : Store := ⟨.empty, .empty, .empty, .empty, .empty⟩

/-- Says what was being done when the tables refused. -/
def doing (what : String) (result : Except TableFault α) : Except StoreError α :=
  result.mapError (.fault what)

/-- There is a user with this id. -/
def HasUser (s : Store) (id : Int) : Prop := ∃ r ∈ s.users.rows, r.id = id

instance (s : Store) (id : Int) : Decidable (s.HasUser id) :=
  inferInstanceAs (Decidable (∃ r ∈ _, _))

/-- Refuses a row of a user who does not exist. -/
def checkUser (s : Store) (id : Int) : Except TableFault Unit :=
  if s.HasUser id then .ok () else .error .foreignKey

/-! ### Users -/

/-- The users with this e-mail address. -/
def usersWithEmail (s : Store) (email : Cell) : List (Row UserColumn) :=
  match email with
  | .text t => s.users.rows.filter fun r => decide ((r.cell .email).IsText t)
  | _ => []

/-- Adds a user. -/
def createUser (s : Store) (email : String) : Except StoreError (Int × Store) :=
  doing "Create user" do
    if s.usersWithEmail (.text email) ≠ [] then throw (.notUnique ["users.email"])
    let users := s.users.insert fun | .email => .text email
    return (users.lastId, { s with users })

/-- The e-mail address of a user. -/
def userEmail? (s : Store) (id : Int) : Except StoreError (Option String) :=
  doing "Find user"
    ((s.users.find? id).mapM fun r => Cell.readText ⟨0, "email"⟩ (r.cell .email))

/-- Removes a user, with its subscriptions, channels and policy. -/
def deleteUser (s : Store) (id : Int) : Store :=
  { s with
    users := s.users.eraseWhere fun r => r.id = id
    subscriptions := s.subscriptions.eraseWhere fun r => (r.cell .userId).IsInt id
    policies := s.policies.eraseWhere fun r => r.id = id
    channels := s.channels.eraseWhere fun r => (r.cell .userId).IsInt id }

/-! ### Subscriptions -/

/-- Adds a subscription under an id of its own. -/
def insertSubscription (s : Store) (sub : Subscription) : Except StoreError (Int × Store) :=
  doing "Insert subscription" do
    let cells := Table.stored sub.toCells
    Table.checkRequired cells
    s.checkUser sub.userId
    let subscriptions := s.subscriptions.insert cells
    return (subscriptions.lastId, { s with subscriptions })

/-- The subscription with an id. -/
def subscription? (s : Store) (id : Int) : Except StoreError (Option Subscription) := do
  let found ← doing "Get subscription" ((s.subscriptions.find? id).mapM Subscription.ofRow)
  found.mapM fun reading => reading.mapError .defect

/-- Reads subscriptions; a row that cannot be understood is left out. -/
def readSubscriptions (rows : List (Row SubscriptionColumn)) :
    Except StoreError (List Subscription) := do
  let readings ← doing "Read subscription" (rows.mapM Subscription.ofRow)
  return readings.filterMap Except.toOption

/-- The rows of a user. -/
def ofUser (s : Store) (userId : Int) : List (Row SubscriptionColumn) :=
  s.subscriptions.rows.filter fun r => (r.cell .userId).IsInt userId

/-- Every subscription of a user. -/
def findSubscriptions (s : Store) (userId : Int) : Except StoreError (List Subscription) :=
  readSubscriptions (s.ofUser userId)

/-- The row is stored as recurring. -/
def StoredRecurring (r : Row SubscriptionColumn) : Prop :=
  (r.cell .billingType).IsText BillingType.recurring.tag

instance (r : Row SubscriptionColumn) : Decidable (StoredRecurring r) :=
  inferInstanceAs (Decidable (Cell.IsText _ _))

/-- The stored date comes before a text. -/
def StoredBefore (r : Row SubscriptionColumn) (text : String) : Prop :=
  match r.cell .nextOccurrence with
  | .text date => date < text
  | _ => False

instance (r : Row SubscriptionColumn) (text : String) : Decidable (StoredBefore r text) := by
  unfold StoredBefore; split <;> infer_instance

/-- The recurring subscriptions of a user whose stored date comes before a day. -/
def findOverdue (s : Store) (userId : Int) (before : Date) : Except StoreError (List Subscription) :=
  readSubscriptions ((s.ofUser userId).filter fun r =>
    decide (StoredRecurring r) && decide (StoredBefore r before.toText))

/-- The enabled recurring subscriptions of a user that have a date. -/
def findNotifiable (s : Store) (userId : Int) : Except StoreError (List Subscription) :=
  readSubscriptions ((s.ofUser userId).filter fun r =>
    decide ((r.cell .enabled).IsInt 1) && decide (StoredRecurring r) &&
      !decide (r.cell .nextOccurrence).IsNull)

/-- Changes the date of a subscription; nothing happens when there is none with this id. -/
def updateNextOccurrence (s : Store) (id : Int) (date : Date) : Store :=
  { s with subscriptions := s.subscriptions.set id .nextOccurrence (.text date.toText) }

/-! ### Channels -/

/-- Adds a channel. -/
def insertChannel (s : Store) (userId : Int) (type : ChannelType) (config : Json)
    (template : Option String) : Except StoreError (Int × Store) :=
  doing "Insert channel" do
    s.checkUser userId
    let channels := s.channels.insert (Channel.toCells userId type config template)
    return (channels.lastId, { s with channels })

/-- Turns a channel on or off; nothing happens when there is none with this id. -/
def setChannelEnabled (s : Store) (id : Int) (enabled : Bool) : Store :=
  { s with channels := s.channels.set id .enabled (.ofBool enabled) }

/-- The rows of enabled channels. -/
def enabledChannels (s : Store) : List (Row ChannelColumn) :=
  s.channels.rows.filter fun r => (r.cell .enabled).IsInt 1

/-- The enabled channels of a user; those of an unknown type are left out. -/
def findChannels (s : Store) (userId : Int) : Except StoreError (List Channel) := do
  let rows := s.enabledChannels.filter fun r => (r.cell .userId).IsInt userId
  let readings ← doing "Read channel" (rows.mapM Channel.ofRow)
  return readings.filterMap id

/-- Puts an id into a list in ascending order, unless it is there. -/
def insertId (id : Int) : List Int → List Int
  | [] => [id]
  | i :: rest => if id < i then id :: i :: rest else if id = i then i :: rest else i :: insertId id rest

/-- The users who have an enabled channel, in ascending order. -/
def listUsers (s : Store) : Except StoreError (List Int) :=
  doing "Read users" do
    let cells := s.enabledChannels.map fun r => r.cell .userId
    -- Doubles sort among the integers and before any text, so one of them is met first.
    let reals := cells.filter fun | .real _ => true | _ => false
    let ids ← (reals ++ cells).mapM (Cell.readInt ⟨0, "user_id"⟩)
    return ids.foldl (fun sorted id => insertId id sorted) []

/-! ### Policies -/

/-- The policy of a user. -/
def findPolicy (s : Store) (userId : Int) : Except StoreError (Option Policy) :=
  doing "Find policy" ((s.policies.find? userId).mapM Policy.ofRow)

/-- Adds the policy of a user, or replaces the one there is. -/
def upsertPolicy (s : Store) (p : Policy) : Except StoreError Store :=
  doing "Upsert policy" do
    match s.policies.find? p.userId with
    | some _ =>
      return { s with policies := s.policies.modify p.userId fun _ => p.toCells }
    | none =>
      s.checkUser p.userId
      return { s with policies := s.policies.insertAt p.userId p.toCells }

/-! ### The delivery log -/

/-- The row is about this reminder and says that it was sent. -/
def SentRow (r : Row LogColumn) (subscriptionId : Int) (channelType notifyDate : String) : Prop :=
  (r.cell .subscriptionId).IsInt subscriptionId ∧ (r.cell .channelType).IsText channelType ∧
    (r.cell .notifyDate).IsText notifyDate ∧ (r.cell .status).IsText DeliveryStatus.sent.tag

instance (r : Row LogColumn) (subscriptionId : Int) (channelType notifyDate : String) :
    Decidable (SentRow r subscriptionId channelType notifyDate) :=
  inferInstanceAs (Decidable (_ ∧ _))

/-- The log says that a reminder was sent. -/
def WasSent (s : Store) (key : ReminderKey) : Prop :=
  ∃ r ∈ s.logs.rows, SentRow r key.subscriptionId key.channelType.tag key.notifyDate.toText

instance (s : Store) (key : ReminderKey) : Decidable (s.WasSent key) :=
  inferInstanceAs (Decidable (∃ r ∈ _, _))

/-- The columns that tell sent reminders apart. -/
def sentKeyColumns : List String :=
  [Columns.fullName LogColumn.subscriptionId, Columns.fullName LogColumn.channelType,
    Columns.fullName LogColumn.notifyDate]

/-- Adds an entry to the log; a second entry of a reminder that was sent is refused. -/
def insertLog (s : Store) (e : LogEntry) : Except StoreError Store :=
  doing "Insert log" do
    if e.status = .sent ∧ s.WasSent e.key then throw (.notUnique sentKeyColumns)
    return { s with logs := s.logs.insert e.toCells }

/-- The log of a subscription, oldest entry first. Entries of an unknown kind of channel are left
out, and times that cannot be read become `now`. -/
def logsOf (s : Store) (subscriptionId : Int) (now : Instant) : Except StoreError (List LogEntry) := do
  let rows := s.logs.rows.filter fun r => (r.cell .subscriptionId).IsInt subscriptionId
  let entries ← rows.mapM fun r => do
    let reading ← doing "Read log" (LogEntry.ofRow now r)
    reading.mapError .defect
  return entries.filterMap id

end Store

end Reminders
