import Reminders.Calendar.Date

/-!
Months in the order of dates.

`monthIndex_le_of_le` says that the month of a date does not come before the month of an earlier
one, and `monthIndex_addMonths?` that adding months lands in the month asked for.
-/

namespace Reminders

theorem monthStart_succ_le (y₁ y₂ : Int) {m₁ m₂ : Nat} (h₁ : 1 ≤ m₁ ∧ m₁ ≤ 12)
    (h₂ : 1 ≤ m₂ ∧ m₂ ≤ 12) (h : y₁ * 12 + m₁ < y₂ * 12 + m₂) :
    monthStart y₁ m₁ + monthLength y₁ m₁ ≤ monthStart y₂ m₂ := by
  unfold monthStart
  rcases Int.lt_or_eq_of_le (show y₁ ≤ y₂ by omega) with hy | rfl
  · have hs := daysBeforeYear_succ y₁
    have := Date.daysBeforeYear_mono (show y₁ + 1 ≤ y₂ by omega)
    have := (Date.daysBeforeMonth_bounds y₁ h₁).2
    have := (Date.daysBeforeMonth_bounds y₂ h₂).1
    omega
  · have := @daysBeforeMonth_succ y₁ m₁ h₁.1
    have := daysBeforeMonth_mono y₁ (show m₁ + 1 ≤ m₂ by omega)
    omega

namespace Date

/-- A date in an earlier month is earlier. -/
theorem lt_of_monthIndex_lt {a b : Date} (h : a.monthIndex < b.monthIndex) : a < b := by
  unfold monthIndex at h
  have ha := a.dayNumber_bounds
  have hb := b.dayNumber_bounds
  have := monthStart_succ_le a.year b.year a.month_range b.month_range (by omega)
  rw [lt_iff]
  omega

/-- The month of a date does not come before the month of an earlier date. -/
theorem monthIndex_le_of_le {a b : Date} (h : a ≤ b) : a.monthIndex ≤ b.monthIndex := by
  rw [le_iff] at h
  apply Int.not_lt.mp
  intro hlt
  have := lt_iff.mp (lt_of_monthIndex_lt hlt)
  omega

/-- Adding months lands in the month asked for. -/
theorem monthIndex_addMonths? {d e : Date} {n : Nat} (h : d.addMonths? n = some e) :
    e.monthIndex = d.monthIndex + n := by
  obtain ⟨hy, hm, -⟩ := ofYmd?_eq_some_iff.mp h
  unfold monthIndex at *
  rw [hy, hm]
  omega

end Date

end Reminders
