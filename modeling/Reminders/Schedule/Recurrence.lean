import Reminders.Calendar.Date

/-!
Schedules.

A schedule is the date of a first charge, the anchor, and the rule by which later charges follow.
`Schedule.Occurs` says which dates belong to it: every step of an interval is counted from the
anchor itself, so a charge on the 31st falls on the last day of a shorter month and comes back to
the 31st afterwards; the rules by day of the month and by day of the year admit the anchor and
every later date on which the rule falls.
-/

namespace Reminders

/-- The unit of an interval. -/
inductive IntervalUnit where
  | day | week | month | year
deriving DecidableEq

/-- How charges follow the first one. -/
inductive Recurrence where
  /-- Every so many units. -/
  | every (count : Nat) (unit : IntervalUnit) (pos : 0 < count)
  /-- On a day of each month. -/
  | monthly (day : Nat) (day_range : 1 ≤ day ∧ day ≤ 31)
  /-- On a day of each year. -/
  | yearly (month day : Nat) (month_range : 1 ≤ month ∧ month ≤ 12) (day_range : 1 ≤ day ∧ day ≤ 31)

namespace Recurrence

/-- The recurrence by an interval, unless its length is zero. -/
def every? (count : Nat) (unit : IntervalUnit) : Option Recurrence :=
  if h : 0 < count then some (.every count unit h) else none

/-- The recurrence on a day of each month, if there can be such a day. -/
def monthly? (day : Nat) : Option Recurrence :=
  if h : 1 ≤ day ∧ day ≤ 31 then some (.monthly day h) else none

/-- The recurrence on a day of each year, if there can be such a day. -/
def yearly? (month day : Nat) : Option Recurrence :=
  if h : (1 ≤ month ∧ month ≤ 12) ∧ (1 ≤ day ∧ day ≤ 31) then some (.yearly month day h.1 h.2)
  else none

end Recurrence

/-- The date falls on `day`, or on the last day of its month when the month is shorter. -/
def Date.FallsOn (d : Date) (day : Nat) : Prop := d.day = min day (monthLength d.year d.month)

/-- The date lies `n` units after `anchor`. Months and years are counted by the month, and the date
falls on the day of `anchor`. -/
def Date.IsStep (anchor : Date) (unit : IntervalUnit) (n : Nat) (d : Date) : Prop :=
  match unit with
  | .day => d.dayNumber = anchor.dayNumber + n
  | .week => d.dayNumber = anchor.dayNumber + 7 * n
  | .month => d.monthIndex = anchor.monthIndex + n ∧ d.FallsOn anchor.day
  | .year => d.monthIndex = anchor.monthIndex + 12 * n ∧ d.FallsOn anchor.day

/-- A first charge and the rule for the later ones. -/
structure Schedule where
  anchor : Date
  recurrence : Recurrence

/-- The dates on which a schedule charges. -/
def Schedule.Occurs (s : Schedule) (d : Date) : Prop :=
  match s.recurrence with
  | .every count unit _ => ∃ k : Nat, s.anchor.IsStep unit (k * count) d
  | .monthly day _ => d = s.anchor ∨ (s.anchor < d ∧ d.FallsOn day)
  | .yearly month day _ _ => d = s.anchor ∨ (s.anchor < d ∧ d.month = month ∧ d.FallsOn day)

end Reminders
