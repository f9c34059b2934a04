import Reminders.Proofs.Schedule.First

/-!
Another anchor.

A subscription that has charged is stored with the date of its next charge, so the schedule goes on
from another anchor. Days, weeks and the rules by day keep their dates. Months and years are counted
on the day of the anchor, so they keep their dates when every month has that day; when a shorter
month has moved the anchor back, the later dates are moved back with it.

* `Schedule.occurs_reanchor_iff`: a schedule that keeps its day goes on with the same dates.
* `Date.Drifts`: what an interval of months keeps when it does not keep its day.
-/

namespace Reminders

/-! ### Steps after steps -/

/-- The unit is counted by the month. -/
def IntervalUnit.CountsMonths : IntervalUnit → Prop
  | .day | .week => False
  | .month | .year => True

/-- A date on a day that every month has lies on the day itself. -/
theorem Date.FallsOn.day_eq {d : Date} {day : Nat} (falls : d.FallsOn day) (short : day ≤ 28) :
    d.day = day := by
  have := le_monthLength d.year d.month
  unfold Date.FallsOn at falls
  omega

/-- Steps from a step are steps from the first anchor, when no day was lost. -/
theorem Date.isStep_of_isStep_iff {a d e : Date} {unit : IntervalUnit} {m n : Nat}
    (first : a.IsStep unit m d) (short : unit.CountsMonths → a.day ≤ 28) :
    d.IsStep unit n e ↔ a.IsStep unit (m + n) e := by
  cases unit with
  | day =>
    unfold Date.IsStep at *
    omega
  | week =>
    unfold Date.IsStep at *
    omega
  | month =>
    obtain ⟨index, falls⟩ := first
    simp only [Date.IsStep, falls.day_eq (short trivial), index, Int.natCast_add, Int.add_assoc]
  | year =>
    obtain ⟨index, falls⟩ := first
    simp only [Date.IsStep, falls.day_eq (short trivial), index, Int.natCast_add, Int.add_assoc,
      Int.mul_add]

/-- Later dates are more steps away. -/
theorem Date.le_of_isStep_of_le {a d e : Date} {unit : IntervalUnit} {m n : Nat}
    (first : a.IsStep unit m d) (second : a.IsStep unit n e) (le : d ≤ e) : m ≤ n := by
  by_contra fewer
  suffices lt : e < d from absurd (Int.lt_of_lt_of_le lt le) (Int.lt_irrefl _)
  cases unit with
  | day =>
    unfold Date.IsStep at *
    rw [Date.lt_iff]
    omega
  | week =>
    unfold Date.IsStep at *
    rw [Date.lt_iff]
    omega
  | month =>
    have := first.1
    have := second.1
    exact Date.lt_of_monthIndex_lt (by omega)
  | year =>
    have := first.1
    have := second.1
    exact Date.lt_of_monthIndex_lt (by omega)

/-! ### Schedules -/

namespace Schedule

/-- The schedule with another first charge. -/
def reanchor (s : Schedule) (d : Date) : Schedule := { s with anchor := d }

/-- A charge of the schedule never falls on an earlier day for want of days: it does not count months,
or every month has the day of its anchor. -/
def KeepsDay (s : Schedule) : Prop :=
  match s.recurrence with
  | .every _ unit _ => unit.CountsMonths → s.anchor.day ≤ 28
  | .monthly _ _ | .yearly _ _ _ _ => True

/-- A rule that admits the anchor and every later date of a set admits the same dates from a date that
it admits. -/
theorem rule_reanchor_iff {P : Date → Prop} {a d : Date} (h : d = a ∨ (a < d ∧ P d)) (e : Date) :
    (e = d ∨ (d < e ∧ P e)) ↔ (e = a ∨ (a < e ∧ P e)) ∧ d ≤ e := by
  have le : a ≤ d := by
    rcases h with rfl | ⟨lt, -⟩
    · exact Int.le_refl _
    · exact Int.le_of_lt lt
  constructor
  · rintro (rfl | ⟨lt, hP⟩)
    · exact ⟨h, Int.le_refl _⟩
    · exact ⟨.inr ⟨Int.lt_of_le_of_lt le lt, hP⟩, Int.le_of_lt lt⟩
  · rintro ⟨rfl | ⟨-, hP⟩, later⟩
    · exact .inl (Date.dayNumber_inj.mp (Int.le_antisymm le later))
    · rcases Int.lt_or_eq_of_le later with lt | eq
      · exact .inr ⟨lt, hP⟩
      · exact .inl (Date.dayNumber_inj.mp eq).symm

/-- **From a date on which it charges, a schedule that keeps its day goes on as before.** -/
theorem occurs_reanchor_iff {s : Schedule} (keeps : s.KeepsDay) {d : Date} (h : s.Occurs d)
    (e : Date) : (s.reanchor d).Occurs e ↔ s.Occurs e ∧ d ≤ e := by
  obtain ⟨anchor, recurrence⟩ := s
  cases recurrence with
  | every count unit pos =>
    obtain ⟨k, step⟩ := h
    simp only [reanchor, Occurs, Date.isStep_of_isStep_iff step keeps]
    constructor
    · rintro ⟨j, step'⟩
      refine ⟨⟨k + j, by rwa [Nat.add_mul]⟩, ?_⟩
      exact le_of_isStep ((Date.isStep_of_isStep_iff step keeps).mpr step')
    · rintro ⟨⟨i, step'⟩, le⟩
      have more : k ≤ i := Nat.le_of_mul_le_mul_right (Date.le_of_isStep_of_le step step' le) pos
      refine ⟨i - k, ?_⟩
      rwa [← Nat.add_mul, Nat.add_sub_cancel' more]
  | monthly day range => exact rule_reanchor_iff (P := fun e => e.FallsOn day) h e
  | yearly month day monthRange dayRange =>
    exact rule_reanchor_iff (P := fun e => e.month = month ∧ e.FallsOn day) h e

end Schedule

/-! ### What months keep -/

/-- The date lies some steps of `step` months after `a`, and its day is no later than that of `a` and
no earlier than the last day that every month has. -/
structure Date.Drifts (a : Date) (step : Nat) (d : Date) : Prop where
  phase : ∃ k : Nat, d.monthIndex = a.monthIndex + (k * step : Nat)
  low : min a.day 28 ≤ d.day
  high : d.day ≤ a.day

namespace Date.Drifts

variable {a d e : Date} {step : Nat}

theorem refl (a : Date) (step : Nat) : a.Drifts step a where
  phase := ⟨0, by omega⟩
  low := Nat.min_le_left _ _
  high := Nat.le_refl _

theorem trans (first : a.Drifts step d) (second : d.Drifts step e) : a.Drifts step e := by
  obtain ⟨⟨k, index⟩, low, high⟩ := first
  obtain ⟨⟨j, index'⟩, low', high'⟩ := second
  refine ⟨⟨k + j, ?_⟩, ?_, Nat.le_trans high' high⟩
  · rw [Nat.add_mul]
    omega
  · omega

/-- A step of months drifts. -/
theorem of_monthStep (h : MonthStep a step d) : a.Drifts step d := by
  obtain ⟨k, index, falls⟩ := h
  have := le_monthLength d.year d.month
  unfold Date.FallsOn at falls
  exact ⟨⟨k, index⟩, by omega, by omega⟩

end Date.Drifts

end Reminders
