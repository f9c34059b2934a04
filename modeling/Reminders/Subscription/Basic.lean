import Reminders.Schedule.Count

/-!
Subscriptions.

A subscription is a charge that a user keeps track of. Its recurrence is kept as it was entered or
stored, field by field, so it may be incomplete; `Subscription.schedule?` is the schedule that the
fields describe when they are complete and in range.
-/

namespace Reminders

/-- How a subscription charges. -/
inductive BillingType where
  | recurring | oneTime
deriving DecidableEq

namespace BillingType

def tag : BillingType → String
  | recurring => "recurring"
  | oneTime => "one_time"

/-- The billing type of a tag; `lifetime` is an old tag for a single charge. -/
def ofTag? : String → Option BillingType
  | "recurring" => some recurring
  | "one_time" => some oneTime
  | "lifetime" => some oneTime
  | _ => none

@[simp] theorem ofTag?_tag (b : BillingType) : ofTag? b.tag = some b := by cases b <;> rfl

end BillingType

/-- The family of rules that a recurring subscription follows. -/
inductive RecurrenceType where
  | interval | monthlyDate | yearlyDate
deriving DecidableEq

namespace RecurrenceType

def tag : RecurrenceType → String
  | interval => "interval"
  | monthlyDate => "monthly_date"
  | yearlyDate => "yearly_date"

def ofTag? : String → Option RecurrenceType
  | "interval" => some interval
  | "monthly_date" => some monthlyDate
  | "yearly_date" => some yearlyDate
  | _ => none

@[simp] theorem ofTag?_tag (r : RecurrenceType) : ofTag? r.tag = some r := by cases r <;> rfl

end RecurrenceType

namespace IntervalUnit

def tag : IntervalUnit → String
  | day => "day"
  | week => "week"
  | month => "month"
  | year => "year"

def ofTag? : String → Option IntervalUnit
  | "day" => some day
  | "week" => some week
  | "month" => some month
  | "year" => some year
  | _ => none

@[simp] theorem ofTag?_tag (u : IntervalUnit) : ofTag? u.tag = some u := by cases u <;> rfl

end IntervalUnit

/-- A tracked charge of a user. -/
structure Subscription where
  id : Int
  userId : Int
  name : String
  billingType : BillingType
  recurrenceType : Option RecurrenceType
  intervalCount : Option UInt32
  intervalUnit : Option IntervalUnit
  monthlyDay : Option UInt32
  yearlyMonth : Option UInt32
  yearlyDay : Option UInt32
  /-- The date of the next charge. -/
  nextOccurrence : Option Date
  amount : Float
  currency : String
  enabled : Bool
  /-- Whether reminders are wanted; absent means yes. -/
  notifyEnabled : Option Bool
  /-- The lead time of reminders, in place of the user's. -/
  notifyDaysBefore : Option UInt32
  category : Option String
  paymentMethod : Option String
  url : Option String
  remark : Option String

namespace Subscription

/-- The subscription charges again and again. -/
def IsRecurring (s : Subscription) : Prop := s.billingType = .recurring

instance (s : Subscription) : Decidable s.IsRecurring := inferInstanceAs (Decidable (_ = _))

/-- The recurrence that the fields describe, if they are complete and in range. -/
def recurrence? (s : Subscription) : Option Recurrence :=
  match s.recurrenceType with
  | some .interval =>
    match s.intervalCount, s.intervalUnit with
    | some count, some unit => Recurrence.every? count.toNat unit
    | _, _ => none
  | some .monthlyDate => s.monthlyDay.bind fun day => Recurrence.monthly? day.toNat
  | some .yearlyDate =>
    match s.yearlyMonth, s.yearlyDay with
    | some month, some day => Recurrence.yearly? month.toNat day.toNat
    | _, _ => none
  | none => none

/-- The schedule of a recurring subscription, if it has a date and a complete recurrence. -/
def schedule? (s : Subscription) : Option Schedule :=
  if s.IsRecurring then
    match s.nextOccurrence, s.recurrence? with
    | some anchor, some recurrence => some ⟨anchor, recurrence⟩
    | _, _ => none
  else none

/-- The first charge of a scheduled subscription that is not before `start`. -/
def nextOnOrAfter? (s : Subscription) (start : Date) : Option Date :=
  s.schedule?.bind fun schedule => schedule.next? start

/-- The number of charges from `start` on and before `stop`: a single charge counts by its date, and
a recurring subscription without a schedule never charges. -/
def countBetween (s : Subscription) (start stop : Date) : Nat :=
  match s.billingType with
  | .oneTime =>
    match s.nextOccurrence with
    | some d => if start ≤ d ∧ d < stop then 1 else 0
    | none => 0
  | .recurring =>
    match s.schedule? with
    | some schedule => schedule.countBetween start stop
    | none => 0

end Subscription

/-- The mean number of charges in a month. -/
def Recurrence.perMonth : Recurrence → Float
  | .every count unit _ =>
    let units : Float := match unit with
      | .day => 365.0 / 12.0
      | .week => 52.0 / 12.0
      | .month => 1.0
      | .year => 1.0 / 12.0
    units / Float.ofNat count
  | .monthly _ _ => 1.0
  | .yearly _ _ _ _ => 1.0 / 12.0

/-- The mean number of charges in a month; zero without a schedule. -/
def Subscription.perMonth (s : Subscription) : Float :=
  match s.schedule? with
  | some schedule => schedule.recurrence.perMonth
  | none => 0.0

end Reminders
