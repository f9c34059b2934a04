import Reminders.Schedule.Next
import Reminders.Text.Width

/-!
The interval jump in words.

`Schedule.next?` counts with integers of any size. A machine counts in words of 64 bits, and a
number that does not fit is a fault; so is a division by zero, a span of more days than spans of time
can hold, and a search that does not end. `Words.jump` is the jump over the steps of an interval, one
operation of the machine after the other: it stops at the first fault, and its search over months
looks at a limited number of candidates.
-/

namespace Reminders

/-- How many days or months a unit has. -/
def IntervalUnit.scale : IntervalUnit → Nat
  | .day => 1
  | .week => 7
  | .month => 1
  | .year => 12

/-- The date a number of whole months later, or earlier when the number is negative. The number of
months has 32 bits without its sign; for a larger one there is no date. -/
def Date.shiftMonths? (d : Date) (months : Int) : Option Date :=
  if months.natAbs ≤ Width.maxWord32 then
    let index := d.monthIndex + months
    let year := index / 12
    let month := (index % 12).toNat + 1
    ofYmd? year month (min d.day (monthLength year month))
  else none

/-- Why a computation in words stops. -/
inductive WordFault where
  /-- A number does not fit in 64 bits. -/
  | overflow
  | zeroDivisor
  /-- A span of time cannot hold so many days. -/
  | span
  /-- No more candidates may be looked at. -/
  | unsettled
deriving DecidableEq

/-- A computation in words. -/
abbrev Words := Except WordFault

namespace Words

/-- A number of 64 bits. -/
def word (n : Int) : Words Int := if Width.IsInt64 n then .ok n else .error .overflow

def add (a b : Int) : Words Int := word (a + b)

def sub (a b : Int) : Words Int := word (a - b)

def mul (a b : Int) : Words Int := word (a * b)

/-- The quotient, cut towards zero. -/
def div (a b : Int) : Words Int := if b = 0 then .error .zeroDivisor else word (a.tdiv b)

/-- The number of milliseconds in a day. -/
def millisecondsPerDay : Int := 86400000

/-- A span of days. A span of time is counted in milliseconds, of 64 bits and as many forwards as
backwards. -/
def span (days : Int) : Words Int :=
  if -Width.maxInt64 ≤ days * millisecondsPerDay ∧ days * millisecondsPerDay ≤ Width.maxInt64 then
    .ok days
  else .error .span

/-- The first of the dates `step` days apart, from `anchor` on, that is not before `start`. -/
def dayJump (anchor start : Date) (step : Int) : Words (Option Date) := do
  let gap ← span (start.daysSince anchor)
  let steps ← div (← sub (← add gap step) 1) step
  let days ← span (← mul steps step)
  return anchor.addDays? days

/-- The number of months from the month of one date to that of another. -/
def monthsBetween (anchor start : Date) : Words Int := do
  let months ← mul (← sub start.year anchor.year) 12
  sub (← add months start.month) anchor.month

/-- The number of steps after which the search over months begins. -/
def firstTry (anchor start : Date) (step : Int) : Words Int := do
  div (← monthsBetween anchor start) step

/-- Looks at the dates `step` months apart, from the `k`-th after `anchor` on, for one that is not
before `start`. -/
def tryMonths (anchor start : Date) (step : Int) : (candidates : Nat) → (k : Int) → Words (Option Date)
  | 0, _ => .error .unsettled
  | candidates + 1, k => do
    match anchor.shiftMonths? (← mul k step) with
    | none => return none
    | some d =>
      if start ≤ d then return some d else tryMonths anchor start step candidates (← add k 1)

/-- The first of the dates `step` months apart, from `anchor` on, that is not before `start`. -/
def monthJump (candidates : Nat) (anchor start : Date) (step : Int) : Words (Option Date) := do
  tryMonths anchor start step candidates (← firstTry anchor start step)

/-- The first of the dates `count` units apart, from `anchor` on, that is not before `start`; no more
than `candidates` of them are looked at when the units are months or years. -/
def jump (candidates : Nat) (anchor start : Date) (count : UInt32) (unit : IntervalUnit) :
    Words (Option Date) :=
  if count = 0 then return none
  else if start ≤ anchor then return some anchor
  else do
    let step ← mul count.toNat unit.scale
    match unit with
    | .day | .week => dayJump anchor start step
    | .month | .year => monthJump candidates anchor start step

end Words

end Reminders
