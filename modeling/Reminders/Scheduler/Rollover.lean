import Reminders.Script

/-!
Rollover.

Before schedules are read, the overdue ones are brought up to date: each overdue recurring
subscription of a user gets the date of its first charge from today on. Single charges, incomplete
schedules and dates that would not move forward stay as they are, so doing it again writes nothing.
-/

namespace Reminders

/-- The date that an overdue subscription moves to, if it moves. -/
def Subscription.rollover? (s : Subscription) (today : Date) : Option Date :=
  match s.nextOccurrence, s.nextOnOrAfter? today with
  | some stored, some next => if stored < next then some next else none
  | _, _ => none

namespace Script

/-- Moves subscriptions forward. Gives the number of those that moved. -/
def advanceEach (today : Date) : List Subscription → Script Nat
  | [] => pure 0
  | s :: rest =>
    match s.rollover? today with
    | some date => do
      call (.updateNextOccurrence s.id date)
      return (← advanceEach today rest) + 1
    | none => advanceEach today rest

/-- Moves the overdue subscriptions of a user forward. Gives the number of those that moved. -/
def advanceUser (user : Int) (today : Date) : Script Nat := do
  let overdue : List Subscription ← call (.findOverdue user today)
  advanceEach today overdue

end Script

end Reminders
