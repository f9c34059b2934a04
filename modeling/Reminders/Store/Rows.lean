import Reminders.Calendar.InstantText
import Reminders.Delivery.LogEntry
import Reminders.Json.Printer
import Reminders.Policy.Basic
import Reminders.Store.Columns

/-!
Records as rows.

Each kind of record is written into the columns of its table and read back from them. Reading a
subscription can go wrong in two ways: a cell may hold a value of the wrong kind, which fails the
whole query, or the billing type or the date may not be understood, which is a defect of this row
alone.
-/

namespace Reminders

/-- What a row holds cannot be understood. -/
inductive RowDefect where
  | badDate (text : String) (error : DateTextError)
  | unknownBillingType (subscription : Int) (text : String)
deriving DecidableEq

/-- The wording of a defect. -/
def RowDefect.message : RowDefect → String
  | badDate text error => "bad date '" ++ text ++ "': " ++ error.message
  | unknownBillingType subscription text =>
    "subscription " ++ Numeral.ofInt subscription ++ ": unknown billing type '" ++ text ++ "'"

/-- Reads a stored date. -/
def readDate (text : String) : Except RowDefect Date := (Date.parse text).mapError (.badDate text)

namespace Subscription

/-- The cells of a subscription. -/
def toCells (s : Subscription) : SubscriptionColumn → Cell
  | .userId => .integer s.userId
  | .name => .text s.name
  | .billingType => .text s.billingType.tag
  | .recurrenceType => Cell.ofOption (.text ·.tag) s.recurrenceType
  | .intervalCount => Cell.ofOption Cell.ofWord s.intervalCount
  | .intervalUnit => Cell.ofOption (.text ·.tag) s.intervalUnit
  | .monthlyDay => Cell.ofOption Cell.ofWord s.monthlyDay
  | .yearlyMonth => Cell.ofOption Cell.ofWord s.yearlyMonth
  | .yearlyDay => Cell.ofOption Cell.ofWord s.yearlyDay
  | .nextOccurrence => Cell.ofOption (.text ·.toText) s.nextOccurrence
  | .amount => if s.amount.isNaN then .null else .real s.amount
  | .currency => .text s.currency
  | .enabled => Cell.ofBool s.enabled
  | .notifyEnabled => Cell.ofOption Cell.ofBool s.notifyEnabled
  | .notifyDaysBefore => Cell.ofOption Cell.ofWord s.notifyDaysBefore
  | .category => Cell.ofOption .text s.category
  | .paymentMethod => Cell.ofOption .text s.paymentMethod
  | .url => Cell.ofOption .text s.url
  | .remark => Cell.ofOption .text s.remark

/-- The column's place in a query of subscriptions, in which the id comes first. -/
def place (k : SubscriptionColumn) : Cell.Place :=
  ⟨(Columns.all : List SubscriptionColumn).idxOf k + 1, Columns.name k⟩

/-- Reads a subscription: the billing type and the date first, then the other columns in order. -/
def ofRow (r : Row SubscriptionColumn) : Except TableFault (Except RowDefect Subscription) := do
  let text (k : SubscriptionColumn) := Cell.readText (place k) (r.cell k)
  let text? (k : SubscriptionColumn) := Cell.readOption (Cell.readText (place k)) (r.cell k)
  let word? (k : SubscriptionColumn) := Cell.readWord? (place k) (r.cell k)
  let billing ← text .billingType
  let date ← text? .nextOccurrence
  match BillingType.ofTag? billing with
  | none => return .error (.unknownBillingType r.id billing)
  | some billingType =>
    match date.mapM readDate with
    | .error defect => return .error defect
    | .ok nextOccurrence =>
      let userId ← Cell.readInt (place .userId) (r.cell .userId)
      let name ← text .name
      let recurrenceType ← text? .recurrenceType
      let intervalCount ← word? .intervalCount
      let intervalUnit ← text? .intervalUnit
      let monthlyDay ← word? .monthlyDay
      let yearlyMonth ← word? .yearlyMonth
      let yearlyDay ← word? .yearlyDay
      let amount ← Cell.readReal (place .amount) (r.cell .amount)
      let currency ← text .currency
      let enabled ← Cell.readBool (place .enabled) (r.cell .enabled)
      let notifyEnabled ← Cell.readOption (Cell.readBool (place .notifyEnabled)) (r.cell .notifyEnabled)
      let notifyDaysBefore ← word? .notifyDaysBefore
      let category ← text? .category
      let paymentMethod ← text? .paymentMethod
      let url ← text? .url
      let remark ← text? .remark
      return .ok
        { id := r.id
          userId, name, billingType
          recurrenceType := recurrenceType.bind RecurrenceType.ofTag?
          intervalCount
          intervalUnit := intervalUnit.bind IntervalUnit.ofTag?
          monthlyDay, yearlyMonth, yearlyDay, nextOccurrence, amount, currency, enabled
          notifyEnabled, notifyDaysBefore, category, paymentMethod, url, remark }

end Subscription

namespace Policy

/-- The cells of a policy. -/
def toCells (p : Policy) : PolicyColumn → Cell
  | .daysBefore => Cell.ofWord p.daysBefore
  | .onDueDay => Cell.ofBool p.onDueDay

/-- Reads a policy. -/
def ofRow (r : Row PolicyColumn) : Except TableFault Policy := do
  let daysBefore ← Cell.readWord ⟨1, Columns.name PolicyColumn.daysBefore⟩ (r.cell .daysBefore)
  let onDueDay ← Cell.readBool ⟨2, Columns.name PolicyColumn.onDueDay⟩ (r.cell .onDueDay)
  return ⟨r.id, daysBefore, onDueDay⟩

end Policy

namespace Channel

/-- The cells of a new channel, which is enabled. -/
def toCells (userId : Int) (type : ChannelType) (config : Json) (template : Option String) :
    ChannelColumn → Cell
  | .userId => .integer userId
  | .channelType => .text type.tag
  | .enabled => Cell.ofBool true
  | .config => .text config.toText
  | .template => Cell.ofOption .text template

/-- Reads an enabled channel, or none when its type is unknown. Settings that are not JSON read as
null. -/
def ofRow (r : Row ChannelColumn) : Except TableFault (Option Channel) := do
  let userId ← Cell.readInt ⟨1, Columns.name ChannelColumn.userId⟩ (r.cell .userId)
  let type ← Cell.readText ⟨2, Columns.name ChannelColumn.channelType⟩ (r.cell .channelType)
  let config ← Cell.readText ⟨3, Columns.name ChannelColumn.config⟩ (r.cell .config)
  let template ← Cell.readOption (Cell.readText ⟨4, Columns.name ChannelColumn.template⟩)
    (r.cell .template)
  return (ChannelType.ofTag? type).map fun type =>
    ⟨r.id, userId, type, true, (Json.parse? config).getD .null, template⟩

end Channel

namespace LogEntry

/-- The cells of a log entry. -/
def toCells (e : LogEntry) : LogColumn → Cell
  | .subscriptionId => .integer e.subscriptionId
  | .userId => .integer e.userId
  | .channelType => .text e.channelType.tag
  | .notifyDate => .text e.notifyDate.toText
  | .status => .text e.status.tag
  | .error => Cell.ofOption .text e.error
  | .sentAt => .text e.sentAt.toOffsetText

/-- The column's place in a query of the log. -/
def place (k : LogColumn) : Cell.Place :=
  ⟨(Columns.all : List LogColumn).idxOf k, Columns.name k⟩

/-- Reads a log entry, or none when the kind of channel is unknown. A time that cannot be read
becomes `now`. -/
def ofRow (now : Instant) (r : Row LogColumn) :
    Except TableFault (Except RowDefect (Option LogEntry)) := do
  let subscriptionId ← Cell.readInt (place .subscriptionId) (r.cell .subscriptionId)
  let userId ← Cell.readInt (place .userId) (r.cell .userId)
  let type ← Cell.readText (place .channelType) (r.cell .channelType)
  let date ← Cell.readText (place .notifyDate) (r.cell .notifyDate)
  let status ← Cell.readText (place .status) (r.cell .status)
  let error ← Cell.readOption (Cell.readText (place .error)) (r.cell .error)
  let sentAt ← Cell.readText (place .sentAt) (r.cell .sentAt)
  match ChannelType.ofTag? type with
  | none => return .ok none
  | some channelType =>
    return (readDate date).map fun notifyDate =>
      some
        { subscriptionId, userId, channelType, notifyDate
          status := DeliveryStatus.ofTag status
          error
          sentAt := (Instant.parseStrict sentAt).toOption.getD now }

end LogEntry

end Reminders
