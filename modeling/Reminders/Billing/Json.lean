import Reminders.Billing.Draft
import Reminders.Subscription.Json

/-!
Billing drafts, and accepted billing, as JSON.
-/

namespace Reminders

namespace BillingDraft

/-- The fields of a draft. -/
def shape : Shape BillingDraft :=
  BillingDraft.mk
    <$> .required "billing_type" Json.decodeString
    <*> .defaulted "recurrence_type" (Json.decodeOption Json.decodeString) none
    <*> .defaulted "interval_count" (Json.decodeOption Json.decodeInt64) none
    <*> .defaulted "interval_unit" (Json.decodeOption Json.decodeString) none
    <*> .defaulted "monthly_day" (Json.decodeOption Json.decodeInt64) none
    <*> .defaulted "yearly_month" (Json.decodeOption Json.decodeInt64) none
    <*> .defaulted "yearly_day" (Json.decodeOption Json.decodeInt64) none
    <*> .defaulted "next_occurrence" (Json.decodeOption Json.decodeInstant) none

/-- Reads a draft. -/
def ofJson : Decoder BillingDraft := shape.decode "struct BillingDraft"

/-- The JSON of a draft. -/
def toJson (d : BillingDraft) : Json :=
  .obj
    [("billing_type", .str d.billingType),
      ("recurrence_type", .ofText? d.recurrenceType),
      ("interval_count", .ofOption .int d.intervalCount),
      ("interval_unit", .ofText? d.intervalUnit),
      ("monthly_day", .ofOption .int d.monthlyDay),
      ("yearly_month", .ofOption .int d.yearlyMonth),
      ("yearly_day", .ofOption .int d.yearlyDay),
      ("next_occurrence", .ofOption (.str ·.toText) d.nextOccurrence)]

end BillingDraft

/-- The JSON of accepted billing. -/
def Billing.toJson (b : Billing) : Json :=
  .obj
    [("billing_type", .str b.billingType.tag),
      ("recurrence_type", .ofOption (.str ·.tag) b.recurrenceType),
      ("interval_count", .ofWord? b.intervalCount),
      ("interval_unit", .ofOption (.str ·.tag) b.intervalUnit),
      ("monthly_day", .ofWord? b.monthlyDay),
      ("yearly_month", .ofWord? b.yearlyMonth),
      ("yearly_day", .ofWord? b.yearlyDay),
      ("next_occurrence", b.nextOccurrence.toJson)]

end Reminders
