import Reminders.Json.Decode
import Reminders.Subscription.Basic

/-!
Subscriptions as JSON.
-/

namespace Reminders

namespace BillingType

/-- The tags of billing types. -/
def tags : List (String × BillingType) := [recurring, oneTime].map fun b => (b.tag, b)

def decode : Decoder BillingType := Json.decodeTag tags

end BillingType

namespace RecurrenceType

/-- The tags of recurrence types. -/
def tags : List (String × RecurrenceType) :=
  [interval, monthlyDate, yearlyDate].map fun r => (r.tag, r)

def decode : Decoder RecurrenceType := Json.decodeTag tags

end RecurrenceType

namespace IntervalUnit

/-- The tags of units. -/
def tags : List (String × IntervalUnit) := [day, week, month, year].map fun u => (u.tag, u)

def decode : Decoder IntervalUnit := Json.decodeTag tags

end IntervalUnit

/-- A date as JSON. -/
def Date.toJson (d : Date) : Json := .str d.toText

namespace Subscription

/-- The fields of a subscription. -/
def shape : Shape Subscription :=
  Subscription.mk
    <$> .required "id" Json.decodeInt64
    <*> .required "user_id" Json.decodeInt64
    <*> .required "name" Json.decodeString
    <*> .required "billing_type" BillingType.decode
    <*> .optional "recurrence_type" RecurrenceType.decode
    <*> .optional "interval_count" Json.decodeWord32
    <*> .optional "interval_unit" IntervalUnit.decode
    <*> .optional "monthly_day" Json.decodeWord32
    <*> .optional "yearly_month" Json.decodeWord32
    <*> .optional "yearly_day" Json.decodeWord32
    <*> .optional "next_occurrence" Json.decodeDate
    <*> .required "amount" Json.decodeFloat
    <*> .required "currency" Json.decodeString
    <*> .required "enabled" Json.decodeBool
    <*> .optional "notify_enabled" Json.decodeBool
    <*> .optional "notify_days_before" Json.decodeWord32
    <*> .optional "category" Json.decodeString
    <*> .optional "payment_method" Json.decodeString
    <*> .optional "url" Json.decodeString
    <*> .optional "remark" Json.decodeString

/-- Reads a subscription. -/
def ofJson : Decoder Subscription := shape.decode "struct Subscription"

/-- The JSON of a subscription. -/
def toJson (s : Subscription) : Json :=
  .obj
    [("id", .int s.id),
      ("user_id", .int s.userId),
      ("name", .str s.name),
      ("billing_type", .str s.billingType.tag),
      ("recurrence_type", .ofOption (.str ·.tag) s.recurrenceType),
      ("interval_count", .ofWord? s.intervalCount),
      ("interval_unit", .ofOption (.str ·.tag) s.intervalUnit),
      ("monthly_day", .ofWord? s.monthlyDay),
      ("yearly_month", .ofWord? s.yearlyMonth),
      ("yearly_day", .ofWord? s.yearlyDay),
      ("next_occurrence", .ofOption Date.toJson s.nextOccurrence),
      ("amount", .float s.amount),
      ("currency", .str s.currency),
      ("enabled", .bool s.enabled),
      ("notify_enabled", .ofOption .bool s.notifyEnabled),
      ("notify_days_before", .ofWord? s.notifyDaysBefore),
      ("category", .ofText? s.category),
      ("payment_method", .ofText? s.paymentMethod),
      ("url", .ofText? s.url),
      ("remark", .ofText? s.remark)]

end Subscription

end Reminders
