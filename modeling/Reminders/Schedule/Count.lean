import Reminders.Schedule.Next

/-!
Walking a schedule.

`Schedule.countBetween` is the number of charges from one day on and before another, and
`Schedule.upcoming` lists the first charges from a day on. Both go from each charge to the first one
after it.
-/

namespace Reminders

namespace Date

theorem dayNumber_next? {d e : Date} (h : d.next? = some e) : e.dayNumber = d.dayNumber + 1 :=
  dayNumber_addDays? h

end Date

namespace Schedule

/-- The number of charges from `start` on and before `stop`, added to `counted`. -/
def countFrom (s : Schedule) (stop start : Date) (counted : Nat) : Nat :=
  match _next : s.next? start with
  | none => counted
  | some d =>
    if _early : d < stop then
      match _after : d.next? with
      | none => counted + 1
      | some e => countFrom s stop e (counted + 1)
    else counted
termination_by (stop.dayNumber - start.dayNumber).toNat
decreasing_by
  have := Date.le_iff.mp (le_of_next? _next)
  have := Date.dayNumber_next? _after
  have := Date.lt_iff.mp _early
  omega

/-- The number of charges from `start` on and before `stop`. -/
def countBetween (s : Schedule) (start stop : Date) : Nat :=
  if stop ≤ start then 0 else s.countFrom stop start 0

/-- The first `n` charges from `start` on, each the first after the one before it; a missing one
ends the list. -/
def upcoming (s : Schedule) (start : Date) : Nat → List (Option Date)
  | 0 => []
  | n + 1 =>
    match s.next? start with
    | none => [none]
    | some d =>
      some d :: match d.next? with
        | none => []
        | some e => s.upcoming e n

end Schedule

end Reminders
