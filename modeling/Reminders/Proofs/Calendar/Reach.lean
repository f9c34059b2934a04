import Mathlib.Order.Bounds.Basic
import Reminders.Calendar.Months
import Reminders.Schedule.Recurrence

/-!
Which dates the calendar has.

A jump by days or by months answers `none` exactly when it leaves the calendar.

* `exists_dayNumber_eq` — the calendar has no gaps: every day number between two dates is the day
  number of a date.
* `addMonths?_eq_some_iff`, `clamped?_eq_some_iff` — what a jump by months and a clamped day lead to,
  said by the month and the day alone.
* `monthIndex_lt_of_addMonths?_eq_none` — a jump by months that fails lies beyond every date.
-/

namespace Reminders

namespace Date

/-! ### Months and days -/

/-- The year and the month of a date are found from its month counted from year 0. -/
theorem year_eq_of_monthIndex {d : Date} {index : Int} (h : d.monthIndex = index) :
    d.year = index / 12 ∧ d.month = (index % 12).toNat + 1 := by
  obtain ⟨h1, h2⟩ := d.month_range
  unfold monthIndex at h
  omega

/-- A month and the day that a date falls on determine the date. -/
theorem eq_of_fallsOn {a b : Date} {day : Nat} (month : a.monthIndex = b.monthIndex)
    (ha : a.FallsOn day) (hb : b.FallsOn day) : a = b := by
  obtain ⟨hy, hm⟩ := year_eq_of_monthIndex month
  obtain ⟨hy', hm'⟩ := year_eq_of_monthIndex (rfl : b.monthIndex = b.monthIndex)
  have year : a.year = b.year := hy.trans hy'.symm
  have monthEq : a.month = b.month := hm.trans hm'.symm
  refine Date.ext year monthEq ?_
  unfold FallsOn at ha hb
  rw [ha, hb, year, monthEq]

/-- A date falls on its own day. -/
theorem fallsOn_day (d : Date) : d.FallsOn d.day := (Nat.min_eq_left d.day_range.2).symm

/-- A date some months after another, on its day, is not before it. -/
theorem le_of_monthIndex_add {a d : Date} {n : Nat} (month : d.monthIndex = a.monthIndex + n)
    (day : d.FallsOn a.day) : a ≤ d := by
  rcases Nat.eq_zero_or_pos n with rfl | pos
  · rw [eq_of_fallsOn (month.trans (Int.add_zero _)) day a.fallsOn_day]
    exact Int.le_refl _
  · exact Int.le_of_lt (lt_of_monthIndex_lt (by omega))

/-! ### Jumps by months -/

/-- Adding months leads to the date in that month that falls on the same day. -/
theorem addMonths?_eq_some_iff {d e : Date} {n : Nat} :
    d.addMonths? n = some e ↔ e.monthIndex = d.monthIndex + n ∧ e.FallsOn d.day := by
  unfold addMonths? FallsOn
  simp only
  rw [ofYmd?_eq_some_iff]
  constructor
  · rintro ⟨hy, hm, hd⟩
    refine ⟨?_, by rw [hd, hy, hm]⟩
    unfold monthIndex at *
    rw [hy, hm]
    omega
  · rintro ⟨index, hd⟩
    obtain ⟨hy, hm⟩ := year_eq_of_monthIndex index
    exact ⟨hy, hm, by rw [hd, hy, hm]⟩

/-- A jump by months that fails lies beyond every date of the calendar. -/
theorem monthIndex_lt_of_addMonths?_eq_none {d : Date} {n : Nat} (h : d.addMonths? n = none)
    (e : Date) : e.monthIndex < d.monthIndex + n := by
  unfold addMonths? at h
  simp only at h
  obtain ⟨hy, hy'⟩ := d.year_range
  obtain ⟨hm, hm'⟩ := d.month_range
  obtain ⟨hd, -⟩ := d.day_range
  obtain ⟨he, he'⟩ := e.year_range
  obtain ⟨hem, hem'⟩ := e.month_range
  have length := le_monthLength ((d.monthIndex + n) / 12) (((d.monthIndex + n) % 12).toNat + 1)
  rw [ofYmd?_eq_none_iff] at h
  by_contra later
  refine h ⟨⟨?_, ?_⟩, ⟨?_, ?_⟩, ?_, ?_⟩
  all_goals unfold monthIndex at *
  all_goals omega

/-! ### A day of a month -/

/-- The date on a day of a month is the date in that month that falls on the day. -/
theorem clamped?_eq_some_iff {year : Int} {month day : Nat} {d : Date} (pos : 1 ≤ day) :
    clamped? year month day = some d ↔ d.year = year ∧ d.month = month ∧ d.FallsOn day := by
  unfold clamped? FallsOn
  rw [ofYmd?_eq_some_iff]
  constructor
  all_goals
    rintro ⟨rfl, rfl, hd⟩
    refine ⟨rfl, rfl, ?_⟩
    have length := le_monthLength d.year d.month
    unfold clampDay daysInMonth at *
    rw [if_pos ⟨d.year_range, d.month_range⟩] at *
    omega

/-- A month of the calendar has a date that falls on the day. -/
theorem clamped?_ne_none {year : Int} {month day : Nat} (hy : minYear ≤ year ∧ year ≤ maxYear)
    (hm : 1 ≤ month ∧ month ≤ 12) : clamped? year month day ≠ none := by
  unfold clamped?
  rw [Ne, ofYmd?_eq_none_iff, not_not]
  have length := le_monthLength year month
  refine ⟨hy, hm, ?_, ?_⟩
  all_goals
    unfold clampDay daysInMonth
    rw [if_pos ⟨hy, hm⟩]
    omega

/-! ### Jumps by days -/

/-- The calendar has no gaps. -/
theorem exists_dayNumber_eq {a b : Date} {n : Int} (ha : a.dayNumber ≤ n) (hb : n ≤ b.dayNumber) :
    ∃ d : Date, d.dayNumber = n := by
  cases found : ofDayNumber? n with
  | some d => exact ⟨d, dayNumber_ofDayNumber? found⟩
  | none =>
    exfalso
    have bounds := yearOfDay_bounds n
    have start : 0 ≤ n - daysBeforeYear (yearOfDay n) := by omega
    have length := daysBeforeYear_succ (yearOfDay n)
    have stop : daysBeforeMonth (yearOfDay n) (12 + 1) = yearLength (yearOfDay n) :=
      daysBeforeMonth_thirteen (yearOfDay n)
    have month := monthOfDay_bounds (yearOfDay n) start 12 (by omega) (by omega)
    have day : daysBeforeMonth (yearOfDay n) (_ + 1) = _ := daysBeforeMonth_succ month.1
    -- The year lies between the years of the two dates.
    have years (d : Date) : daysBeforeYear d.year ≤ d.dayNumber ∧
        d.dayNumber < daysBeforeYear (d.year + 1) := by
      have := daysBeforeMonth_bounds d.year d.month_range
      have := daysBeforeYear_succ d.year
      have := d.dayNumber_bounds
      unfold monthStart at *
      omega
    have low : a.year ≤ yearOfDay n := by
      by_contra before
      have := daysBeforeYear_mono (show yearOfDay n + 1 ≤ a.year by omega)
      have := years a
      omega
    have high : yearOfDay n ≤ b.year := by
      by_contra after
      have := daysBeforeYear_mono (show b.year + 1 ≤ yearOfDay n by omega)
      have := years b
      omega
    have lowRange := a.year_range
    have highRange := b.year_range
    unfold ofDayNumber? at found
    simp only at found
    rw [ofYmd?_eq_none_iff] at found
    exact found ⟨by omega, ⟨month.1, month.2.1⟩, by omega, by omega⟩

/-- A jump by days that fails lies beyond every date of the calendar. -/
theorem dayNumber_lt_of_addDays?_eq_none {d : Date} {n : Nat} (h : d.addDays? n = none) (e : Date) :
    e.dayNumber < d.dayNumber + n := by
  by_contra later
  obtain ⟨f, hf⟩ := exists_dayNumber_eq (a := d) (b := e) (n := d.dayNumber + n) (by omega) (by omega)
  have found : d.addDays? n = some f := ofDayNumber?_eq_some_iff.mpr hf
  rw [found] at h
  cases h

end Date

end Reminders
