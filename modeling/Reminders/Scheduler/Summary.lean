import Reminders.Json.Value
import Reminders.Scheduler.Rollover

/-!
The dashboard.

The dashboard of a user adds up the enabled subscriptions by currency: what the recurring ones cost
in a month on average, and how many charges fall into the current calendar month and what they come
to. Overdue subscriptions are moved forward first.
-/

namespace Reminders

/-- The sums of one currency. -/
structure CurrencyTotal where
  /-- The mean cost of a month of recurring charges. -/
  monthlyTotal : Float
  /-- The charges of the current month. -/
  dueThisMonth : Nat
  dueThisMonthAmount : Float

/-- The dashboard of a user: its sums by currency, in the order of their names. -/
structure Summary where
  active : Nat
  byCurrency : List (String × CurrencyTotal)

/-- The first day of the month of a date, and of the month after it. -/
def Date.monthBounds (d : Date) : Option (Date × Date) := do
  let start ← Date.ofYmd? d.year d.month 1
  let stop ← if d.month = 12 then Date.ofYmd? (d.year + 1) 1 1 else Date.ofYmd? d.year (d.month + 1) 1
  return (start, stop)

namespace CurrencyTotal

def zero : CurrencyTotal := ⟨0.0, 0, 0.0⟩

/-- The sums with one more subscription. -/
def add (t : CurrencyTotal) (s : Subscription) (start stop : Date) : CurrencyTotal :=
  let due := s.countBetween start stop
  { monthlyTotal := if s.IsRecurring then t.monthlyTotal + s.amount * s.perMonth else t.monthlyTotal
    dueThisMonth := t.dueThisMonth + due
    dueThisMonthAmount := t.dueThisMonthAmount + s.amount * Float.ofNat due }

end CurrencyTotal

namespace Summary

def empty : Summary := ⟨0, []⟩

/-- Changes the sums of a currency, which start at zero. -/
def adjust (currency : String) (change : CurrencyTotal → CurrencyTotal) :
    List (String × CurrencyTotal) → List (String × CurrencyTotal)
  | [] => [(currency, change .zero)]
  | (c, t) :: rest =>
    if currency < c then (currency, change .zero) :: (c, t) :: rest
    else if currency = c then (c, change t) :: rest
    else (c, t) :: adjust currency change rest

/-- The dashboard with one more subscription; one that is not enabled does not count. -/
def add (summary : Summary) (s : Subscription) (start stop : Date) : Summary :=
  if s.enabled then
    ⟨summary.active + 1, adjust s.currency (·.add s start stop) summary.byCurrency⟩
  else summary

/-- The dashboard of a list of subscriptions. -/
def ofSubscriptions (subscriptions : List Subscription) (start stop : Date) : Summary :=
  subscriptions.foldl (fun summary s => summary.add s start stop) empty

/-- The JSON of a dashboard. -/
def toJson (s : Summary) : Json :=
  .obj
    [("active_subscriptions", .int s.active),
      ("by_currency", .obj (s.byCurrency.map fun (currency, t) =>
        (currency, .obj
          [("monthly_total", .float t.monthlyTotal),
            ("due_this_month", .int t.dueThisMonth),
            ("due_this_month_amount", .float t.dueThisMonthAmount)])))]

end Summary

/-- The dashboard of a user. -/
def Script.summary (user : Int) (today : Date) : Script Summary := do
  let _ ← advanceUser user today
  match today.monthBounds with
  | none => .fail (.validation (.noNextMonth today))
  | some (start, stop) =>
    let subscriptions : List Subscription ← call (.findSubscriptions user)
    return .ofSubscriptions subscriptions start stop

end Reminders
