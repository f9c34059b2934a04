import Reminders.Calendar.Instant
import Reminders.Subscription.Basic
import Reminders.Text.Blank
import Reminders.Text.Width

/-!
Billing drafts.

A draft is what a user enters about the charges of a subscription. `BillingDraft.normalize` accepts
it or says what is wrong; the result, a `Billing`, holds the date and, for a recurring subscription,
the one rule that was asked for. Fields of other rules are ignored.
-/

namespace Reminders

/-- What a user enters about the charges of a subscription. -/
structure BillingDraft where
  billingType : String
  recurrenceType : Option String
  intervalCount : Option Int
  intervalUnit : Option String
  monthlyDay : Option Int
  yearlyMonth : Option Int
  yearlyDay : Option Int
  nextOccurrence : Option Instant
deriving DecidableEq

/-- The rule of a recurring subscription. -/
inductive BillingRule where
  | interval (count : UInt32) (unit : IntervalUnit)
  | monthlyDate (day : UInt32)
  | yearlyDate (month day : UInt32)
deriving DecidableEq

/-- Accepted billing: the date of the next charge and, unless it is the only one, the rule for the
later ones. -/
structure Billing where
  nextOccurrence : Date
  rule : Option BillingRule
deriving DecidableEq

/-- What is wrong with a draft. -/
inductive BillingProblem where
  | unknownBillingType (entered : String)
  | missingDate (billingType : BillingType)
  | unknownRecurrence (entered : String)
  | badIntervalCount
  | badIntervalUnit
  | badMonthlyDay
  | badYearlyMonth
  | badYearlyDay
deriving DecidableEq

/-- The wording of a problem. -/
def BillingProblem.message : BillingProblem → String
  | unknownBillingType entered => "unknown billing type '" ++ entered ++ "'"
  | missingDate .oneTime => "billing date is required for one-time subscriptions"
  | missingDate .recurring => "next billing date is required for recurring subscriptions"
  | unknownRecurrence entered => "unknown recurrence type '" ++ entered ++ "'"
  | badIntervalCount => "interval count must be at least 1"
  | badIntervalUnit => "interval unit must be one of day, week, month, year"
  | badMonthlyDay => "monthly day must be between 1 and 31"
  | badYearlyMonth => "yearly month must be between 1 and 12"
  | badYearlyDay => "yearly day must be between 1 and 31"

namespace BillingDraft

/-- A number between 1 and `high`, which fits in 32 bits. -/
def within (high : Nat) (value : Option Int) : Option UInt32 :=
  match value with
  | some n => if 1 ≤ n ∧ n ≤ high then some (UInt32.ofNat n.toNat) else none
  | none => none

/-- The value, or the problem that its absence is. -/
def orElse (problem : BillingProblem) : Option α → Except BillingProblem α
  | some a => .ok a
  | none => .error problem

/-- The recurrence that a draft names; none named means an interval. -/
def recurrence (d : BillingDraft) : Except BillingProblem RecurrenceType :=
  let entered := Text.trim (d.recurrenceType.getD "")
  if entered = "" then .ok .interval
  else orElse (.unknownRecurrence entered) (RecurrenceType.ofTag? entered)

/-- The rule that a draft asks for. -/
def rule (d : BillingDraft) : Except BillingProblem BillingRule := do
  match ← d.recurrence with
  | .interval =>
    let count ← orElse .badIntervalCount (within Width.maxWord32 d.intervalCount)
    let unit ← orElse .badIntervalUnit
      (d.intervalUnit.bind fun unit => IntervalUnit.ofTag? (Text.trim unit))
    return .interval count unit
  | .monthlyDate =>
    let day ← orElse .badMonthlyDay (within 31 d.monthlyDay)
    return .monthlyDate day
  | .yearlyDate =>
    let month ← orElse .badYearlyMonth (within 12 d.yearlyMonth)
    let day ← orElse .badYearlyDay (within 31 d.yearlyDay)
    return .yearlyDate month day

/-- Accepts a draft, or says what is wrong with it. The date keeps its day and loses its time. -/
def normalize (d : BillingDraft) : Except BillingProblem Billing := do
  let type ← orElse (.unknownBillingType d.billingType)
    (BillingType.ofTag? (Text.trim d.billingType))
  let t ← orElse (.missingDate type) d.nextOccurrence
  match type with
  | .oneTime => return ⟨t.date, none⟩
  | .recurring => return ⟨t.date, some (← d.rule)⟩

end BillingDraft

namespace Billing

/-- The billing type of accepted billing. -/
def billingType (b : Billing) : BillingType :=
  match b.rule with
  | none => .oneTime
  | some _ => .recurring

/-- The kind of rule. -/
def recurrenceType (b : Billing) : Option RecurrenceType :=
  match b.rule with
  | none => none
  | some (.interval _ _) => some .interval
  | some (.monthlyDate _) => some .monthlyDate
  | some (.yearlyDate _ _) => some .yearlyDate

def intervalCount (b : Billing) : Option UInt32 :=
  match b.rule with
  | some (.interval count _) => some count
  | _ => none

def intervalUnit (b : Billing) : Option IntervalUnit :=
  match b.rule with
  | some (.interval _ unit) => some unit
  | _ => none

def monthlyDay (b : Billing) : Option UInt32 :=
  match b.rule with
  | some (.monthlyDate day) => some day
  | _ => none

def yearlyMonth (b : Billing) : Option UInt32 :=
  match b.rule with
  | some (.yearlyDate month _) => some month
  | _ => none

def yearlyDay (b : Billing) : Option UInt32 :=
  match b.rule with
  | some (.yearlyDate _ day) => some day
  | _ => none

/-- The subscription with this billing in place of its own. -/
def applyTo (b : Billing) (s : Subscription) : Subscription :=
  { s with
    billingType := b.billingType
    recurrenceType := b.recurrenceType
    intervalCount := b.intervalCount
    intervalUnit := b.intervalUnit
    monthlyDay := b.monthlyDay
    yearlyMonth := b.yearlyMonth
    yearlyDay := b.yearlyDay
    nextOccurrence := some b.nextOccurrence }

/-- The draft that asks for this billing. -/
def toDraft (b : Billing) : BillingDraft where
  billingType := b.billingType.tag
  recurrenceType := b.recurrenceType.map RecurrenceType.tag
  intervalCount := b.intervalCount.map fun n => Int.ofNat n.toNat
  intervalUnit := b.intervalUnit.map IntervalUnit.tag
  monthlyDay := b.monthlyDay.map fun n => Int.ofNat n.toNat
  yearlyMonth := b.yearlyMonth.map fun n => Int.ofNat n.toNat
  yearlyDay := b.yearlyDay.map fun n => Int.ofNat n.toNat
  nextOccurrence := some (.startOf b.nextOccurrence)

end Billing

end Reminders
