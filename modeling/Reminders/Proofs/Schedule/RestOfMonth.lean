import Reminders.Proofs.Schedule.Months
import Reminders.Proofs.Scheduler.Rollover
import Reminders.Scheduler.Summary

/-!
The rest of a month.

A subscription that is over is moved to its first charge from today on, and then its charges in the
whole month are counted from there. That leaves the charges that it had from today on, although
later charges may move: an interval of months or years that loses its day has one charge in a month
at most, so in this month it is the one it was moved to.

* `Schedule.eq_of_countsMonths`: there is one charge a month, when months are counted.
* `Subscription.datesIn_movedTo`: the charges of the month after a rollover.
* `Date.isMonth_of_monthBounds`: the month that a dashboard looks at.
-/

namespace Reminders

variable {d e today first stop : Date}

/-! ### One charge a month -/

namespace Schedule

variable {s : Schedule}

/-- The intervals of the schedule are counted by the month. -/
def CountsMonths (s : Schedule) : Prop :=
  match s.recurrence with
  | .every _ unit _ => unit.CountsMonths
  | .monthly _ _ | .yearly _ _ _ _ => False

/-- Only a schedule that counts months may lose its day. -/
theorem countsMonths_of_not_keepsDay (loses : ¬s.KeepsDay) : s.CountsMonths := by
  obtain ⟨anchor, recurrence⟩ := s
  cases recurrence with
  | every count unit pos =>
    by_contra other
    exact loses fun counts => absurd counts other
  | monthly | yearly => exact absurd trivial loses

/-- **There is one charge a month**, at most, when months are counted. -/
theorem eq_of_countsMonths (counts : s.CountsMonths) (hd : s.Occurs d) (he : s.Occurs e)
    (same : d.monthIndex = e.monthIndex) : d = e := by
  obtain ⟨anchor, recurrence⟩ := s
  cases recurrence with
  | every count unit pos =>
    obtain ⟨j, stepD⟩ := hd
    obtain ⟨k, stepE⟩ := he
    cases unit with
    | day | week => exact counts.elim
    | month => exact Date.eq_of_fallsOn same stepD.2 stepE.2
    | year => exact Date.eq_of_fallsOn same stepD.2 stepE.2
  | monthly | yearly => exact counts.elim

end Schedule

/-! ### After a rollover -/

namespace Subscription

variable {s : Subscription}

/-- Dates of a month that are not before one of its days lie in the month of that day. -/
theorem monthIndex_eq_of_between (here : today.monthIndex = first.monthIndex)
    (month : Date.IsMonth first stop) (from_today : today ≤ d) (before : d ≤ e)
    (inside : e < stop) :
    d.monthIndex = e.monthIndex ∧ e.monthIndex = first.monthIndex := by
  have low := Date.monthIndex_le_of_le from_today
  have high := Date.monthIndex_le_of_le before
  have opens : first ≤ e := (Date.le_iff_of_day_eq_one month.opens).mpr (by omega)
  have index := month.mem_iff.mp ⟨opens, inside⟩
  exact ⟨by omega, index⟩

/-- **The charges of the month after a rollover** are those from the day of the rollover on before
it. -/
theorem datesIn_movedTo (month : Date.IsMonth first stop)
    (here : today.monthIndex = first.monthIndex) (next : s.nextOnOrAfter? today = some d) :
    datesIn (s.movedTo d).Charges first stop = datesIn s.Charges today stop := by
  obtain ⟨⟨charge, from_today⟩, least⟩ := (isFirst_nextOnOrAfter? s today).eq_some_iff.mp next
  obtain ⟨schedule, found⟩ := exists_schedule charge.1
  have opens {e : Date} (le : today ≤ e) : first ≤ e := by
    have := Date.monthIndex_le_of_le le
    exact (Date.le_iff_of_day_eq_one month.opens).mpr (by omega)
  have occurs := charges_iff_occurs found
  have moved := charges_iff_occurs (schedule?_movedTo found d)
  ext e
  by_cases keeps : schedule.KeepsDay
  · have goes_on := Schedule.occurs_reanchor_iff keeps ((occurs d).mp charge) e
    rw [← moved e, ← occurs e] at goes_on
    constructor
    · rintro ⟨he, -, inside⟩
      obtain ⟨he, le⟩ := goes_on.mp he
      exact ⟨he, Int.le_trans from_today le, inside⟩
    · rintro ⟨he, le, inside⟩
      exact ⟨goes_on.mpr ⟨he, least ⟨he, le⟩⟩, opens le, inside⟩
  · -- Either side has the date of the rollover at most.
    have counts := Schedule.countsMonths_of_not_keepsDay keeps
    have counts' : (schedule.reanchor d).CountsMonths := counts
    have own : (schedule.reanchor d).Occurs d := occurs_anchor (schedule.reanchor d)
    constructor
    · rintro ⟨he, -, inside⟩
      have le : (schedule.reanchor d).anchor ≤ e := anchor_le_of_occurs ((moved e).mp he)
      obtain ⟨same, -⟩ := monthIndex_eq_of_between here month from_today le inside
      obtain rfl : d = e := Schedule.eq_of_countsMonths counts' own ((moved e).mp he) same
      exact ⟨charge, from_today, inside⟩
    · rintro ⟨he, le, inside⟩
      obtain ⟨same, -⟩ := monthIndex_eq_of_between here month from_today (least ⟨he, le⟩) inside
      obtain rfl : d = e :=
        Schedule.eq_of_countsMonths counts ((occurs d).mp charge) ((occurs e).mp he) same
      exact ⟨(moved d).mpr own, opens le, inside⟩

/-- A subscription that is not over has its charges of the month from the day on. -/
theorem datesIn_of_le {a : Date} (month : Date.IsMonth first stop)
    (here : today.monthIndex = first.monthIndex) (stored : s.nextOccurrence = some a)
    (ahead : today ≤ a) : datesIn s.Charges first stop = datesIn s.Charges today stop := by
  ext e
  constructor
  · rintro ⟨he, -, inside⟩
    exact ⟨he, Int.le_trans ahead (le_of_charges stored he), inside⟩
  · rintro ⟨he, le, inside⟩
    have := Date.monthIndex_le_of_le le
    exact ⟨he, (Date.le_iff_of_day_eq_one month.opens).mpr (by omega), inside⟩

end Subscription

/-! ### The month of a day -/

/-- **The month that a dashboard looks at** is that of the day, unless the calendar ends with it. -/
theorem Date.isMonth_of_monthBounds (d : Date) (room : d.year < maxYear) :
    ∃ first stop, d.monthBounds = some (first, stop) ∧ IsMonth first stop ∧
      d.monthIndex = first.monthIndex := by
  have years := d.year_range
  have months := d.month_range
  have there (year : Int) (month : Nat) (hy : minYear ≤ year ∧ year ≤ maxYear)
      (hm : 1 ≤ month ∧ month ≤ 12) : ∃ e, ofYmd? year month 1 = some e := by
    rw [← Option.ne_none_iff_exists', Ne, ofYmd?_eq_none_iff, not_not]
    have := le_monthLength year month
    exact ⟨hy, hm, by omega, by omega⟩
  obtain ⟨first, opens⟩ := there d.year d.month years months
  obtain ⟨firstYear, firstMonth, firstDay⟩ := ofYmd?_eq_some_iff.mp opens
  obtain ⟨stop, bounds, index, day⟩ : ∃ stop, d.monthBounds = some (first, stop) ∧
      stop.monthIndex = d.monthIndex + 1 ∧ stop.day = 1 := by
    unfold monthBounds
    rw [opens]
    by_cases december : d.month = 12
    · obtain ⟨stop, closes⟩ := there (d.year + 1) 1 (by omega) (by decide)
      obtain ⟨year, month, day⟩ := ofYmd?_eq_some_iff.mp closes
      refine ⟨stop, ?_, ?_, day⟩
      · simp only [if_pos december, closes]
        rfl
      · unfold monthIndex
        rw [year, month, december]
        omega
    · obtain ⟨stop, closes⟩ := there d.year (d.month + 1) years (by omega)
      obtain ⟨year, month, day⟩ := ofYmd?_eq_some_iff.mp closes
      refine ⟨stop, ?_, ?_, day⟩
      · simp only [if_neg december, closes]
        rfl
      · unfold monthIndex
        rw [year, month]
        omega
  have same : first.monthIndex = d.monthIndex := by
    unfold monthIndex
    rw [firstYear, firstMonth]
  exact ⟨first, stop, bounds, ⟨firstDay, day, by rw [index, same]⟩, same.symm⟩

end Reminders
