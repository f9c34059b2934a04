/-!
Calendar dates.

A date is a year, a month and a day of the proleptic Gregorian calendar, between the first day of
year −262143 and the last day of year 262142. Dates outside that range do not exist: every
operation that would leave it answers `none`.

Dates are ordered by `dayNumber`, the number of days since the first day of year 0. `ofDayNumber?`
is its inverse: `ofDayNumber?_dayNumber` says that a date is found again from its number, and
`dayNumber_ofDayNumber?` that the date found has the number asked for.
-/

namespace Reminders

/-- The first year of the calendar. -/
def minYear : Int := -262143

/-- The last year of the calendar. -/
def maxYear : Int := 262142

/-- A year divisible by four is a leap year, except centuries that four hundred does not divide. -/
def IsLeap (year : Int) : Prop := year % 4 = 0 ∧ (year % 100 ≠ 0 ∨ year % 400 = 0)

instance (year : Int) : Decidable (IsLeap year) := by unfold IsLeap; infer_instance

/-- The number of days in a month; it is used for months 1 to 12. -/
def monthLength (year : Int) : Nat → Nat
  | 2 => if IsLeap year then 29 else 28
  | 4 => 30
  | 6 => 30
  | 9 => 30
  | 11 => 30
  | _ => 31

theorem monthLength_le (year : Int) (month : Nat) : monthLength year month ≤ 31 := by
  unfold monthLength; split <;> (try split) <;> omega

theorem le_monthLength (year : Int) (month : Nat) : 28 ≤ monthLength year month := by
  unfold monthLength; split <;> (try split) <;> omega

/-- A date of the calendar. -/
@[ext] structure Date where
  year : Int
  month : Nat
  day : Nat
  year_range : minYear ≤ year ∧ year ≤ maxYear
  month_range : 1 ≤ month ∧ month ≤ 12
  day_range : 1 ≤ day ∧ day ≤ monthLength year month
deriving DecidableEq

namespace Date

/-- The date with this year, month and day, if the calendar has it. -/
def ofYmd? (year : Int) (month day : Nat) : Option Date :=
  if h : (minYear ≤ year ∧ year ≤ maxYear) ∧ (1 ≤ month ∧ month ≤ 12) ∧
      (1 ≤ day ∧ day ≤ monthLength year month) then
    some ⟨year, month, day, h.1, h.2.1, h.2.2⟩
  else none

theorem ofYmd?_eq_some_iff {year : Int} {month day : Nat} {d : Date} :
    ofYmd? year month day = some d ↔ d.year = year ∧ d.month = month ∧ d.day = day := by
  unfold ofYmd?
  constructor
  · intro h
    split at h
    · cases Option.some.inj h; exact ⟨rfl, rfl, rfl⟩
    · cases h
  · rintro ⟨rfl, rfl, rfl⟩
    rw [dif_pos ⟨d.year_range, d.month_range, d.day_range⟩]

@[simp] theorem ofYmd?_self (d : Date) : ofYmd? d.year d.month d.day = some d :=
  ofYmd?_eq_some_iff.mpr ⟨rfl, rfl, rfl⟩

theorem ofYmd?_eq_none_iff {year : Int} {month day : Nat} :
    ofYmd? year month day = none ↔
      ¬((minYear ≤ year ∧ year ≤ maxYear) ∧ (1 ≤ month ∧ month ≤ 12) ∧
        (1 ≤ day ∧ day ≤ monthLength year month)) := by
  unfold ofYmd?; split <;> simp_all

/-- The last date of the calendar. -/
def last : Date :=
  ⟨262142, 12, 31, by decide, by decide, by decide⟩

/-- The first date of the calendar. -/
def first : Date :=
  ⟨-262143, 1, 1, by decide, by decide, by decide⟩

end Date

/-! ### Day numbers -/

/-- The number of days between the first day of year 0 and the first day of `year`. -/
def daysBeforeYear (year : Int) : Int :=
  365 * year + (year + 3) / 4 - (year + 99) / 100 + (year + 399) / 400

/-- The number of days of a year that lie before the first day of a month. -/
def daysBeforeMonth (year : Int) (month : Nat) : Int :=
  match month with
  | 0 => 0
  | 1 => 0
  | month + 2 => daysBeforeMonth year (month + 1) + monthLength year (month + 1)

/-- The number of days in a year. -/
def yearLength (year : Int) : Int := if IsLeap year then 366 else 365

theorem daysBeforeYear_succ (year : Int) :
    daysBeforeYear (year + 1) = daysBeforeYear year + yearLength year := by
  unfold daysBeforeYear yearLength
  by_cases h : IsLeap year
  · rw [if_pos h]; unfold IsLeap at h; omega
  · rw [if_neg h]; unfold IsLeap at h; omega

theorem daysBeforeMonth_succ {year : Int} {month : Nat} (h : 1 ≤ month) :
    daysBeforeMonth year (month + 1) = daysBeforeMonth year month + monthLength year month := by
  obtain ⟨n, rfl⟩ : ∃ n, month = n + 1 := ⟨month - 1, by omega⟩
  rfl

theorem daysBeforeMonth_mono (year : Int) {m n : Nat} (h : m ≤ n) :
    daysBeforeMonth year m ≤ daysBeforeMonth year n := by
  induction h with
  | refl => exact Int.le_refl _
  | @step n _ ih =>
    cases n with
    | zero => exact ih
    | succ n => rw [daysBeforeMonth_succ (by omega)]; omega

theorem daysBeforeMonth_thirteen (year : Int) : daysBeforeMonth year 13 = yearLength year := by
  simp only [daysBeforeMonth, monthLength, yearLength]
  split <;> rfl

/-- The number of days between the first day of year 0 and the first day of a month. -/
def monthStart (year : Int) (month : Nat) : Int := daysBeforeYear year + daysBeforeMonth year month

namespace Date

/-- The number of days between the first day of year 0 and this date. -/
def dayNumber (d : Date) : Int := monthStart d.year d.month + (d.day - 1 : Int)

/-- The year that contains a day: the mean length of a year points at most one year off. -/
def yearOfDay (n : Int) : Int :=
  let guess := n * 400 / 146097
  if n < daysBeforeYear guess then guess - 1
  else if daysBeforeYear (guess + 1) ≤ n then guess + 1
  else guess

/-- The last month, among the first `bound`, that starts no later than day `k` of the year. -/
def monthOfDay (year k : Int) : Nat → Nat
  | 0 => 1
  | 1 => 1
  | bound + 2 =>
    if daysBeforeMonth year (bound + 2) ≤ k then bound + 2 else monthOfDay year k (bound + 1)

/-- The date with this day number, if the calendar has it. -/
def ofDayNumber? (n : Int) : Option Date :=
  let year := yearOfDay n
  let k := n - daysBeforeYear year
  let month := monthOfDay year k 12
  ofYmd? year month (k - daysBeforeMonth year month + 1).toNat

/-- The date a number of days later (earlier, when negative). -/
def addDays? (d : Date) (days : Int) : Option Date := ofDayNumber? (d.dayNumber + days)

/-- The number of days from `start` to `d`. -/
def daysSince (d start : Date) : Int := d.dayNumber - start.dayNumber

/-- The date after this one. -/
def next? (d : Date) : Option Date := d.addDays? 1

instance : LT Date := ⟨fun a b => a.dayNumber < b.dayNumber⟩
instance : LE Date := ⟨fun a b => a.dayNumber ≤ b.dayNumber⟩
instance (a b : Date) : Decidable (a < b) := inferInstanceAs (Decidable (a.dayNumber < b.dayNumber))
instance (a b : Date) : Decidable (a ≤ b) := inferInstanceAs (Decidable (a.dayNumber ≤ b.dayNumber))

theorem lt_iff {a b : Date} : a < b ↔ a.dayNumber < b.dayNumber := Iff.rfl
theorem le_iff {a b : Date} : a ≤ b ↔ a.dayNumber ≤ b.dayNumber := Iff.rfl

/-- The day number of a date lies within its month. -/
theorem dayNumber_bounds (d : Date) :
    monthStart d.year d.month ≤ d.dayNumber ∧
      d.dayNumber < monthStart d.year d.month + monthLength d.year d.month := by
  have := d.day_range
  unfold dayNumber
  omega

/-! ### The inverse of `dayNumber` -/

theorem daysBeforeMonth_bounds (year : Int) {month : Nat} (h : 1 ≤ month ∧ month ≤ 12) :
    0 ≤ daysBeforeMonth year month ∧
      daysBeforeMonth year month + monthLength year month ≤ yearLength year := by
  obtain ⟨h1, h2⟩ := h
  have h13 := daysBeforeMonth_thirteen year
  refine ⟨?_, ?_⟩
  · exact daysBeforeMonth_mono year (Nat.zero_le month)
  · rw [← daysBeforeMonth_succ h1, ← h13]
    exact daysBeforeMonth_mono year (show month + 1 ≤ 13 by omega)

theorem yearOfDay_bounds (n : Int) :
    daysBeforeYear (yearOfDay n) ≤ n ∧ n < daysBeforeYear (yearOfDay n + 1) := by
  unfold yearOfDay
  simp only
  generalize hg : n * 400 / 146097 = guess
  split
  · rename_i h
    rw [Int.sub_add_cancel]
    refine ⟨?_, h⟩
    unfold daysBeforeYear; omega
  · split
    · refine ⟨by assumption, ?_⟩
      unfold daysBeforeYear; omega
    · omega

theorem daysBeforeYear_mono {a b : Int} (h : a ≤ b) : daysBeforeYear a ≤ daysBeforeYear b := by
  unfold daysBeforeYear; omega

/-- A day belongs to one year only. -/
theorem yearOfDay_eq {n year : Int} (h : daysBeforeYear year ≤ n ∧ n < daysBeforeYear (year + 1)) :
    yearOfDay n = year := by
  have hb := yearOfDay_bounds n
  rcases Int.lt_trichotomy (yearOfDay n) year with hlt | heq | hgt
  · have := daysBeforeYear_mono (show yearOfDay n + 1 ≤ year by omega); omega
  · exact heq
  · have := daysBeforeYear_mono (show year + 1 ≤ yearOfDay n by omega); omega

theorem monthOfDay_bounds (year : Int) {k : Int} (h0 : 0 ≤ k) :
    ∀ bound : Nat, 1 ≤ bound → k < daysBeforeMonth year (bound + 1) →
      1 ≤ monthOfDay year k bound ∧ monthOfDay year k bound ≤ bound ∧
        daysBeforeMonth year (monthOfDay year k bound) ≤ k ∧
        k < daysBeforeMonth year (monthOfDay year k bound + 1)
  | 0, h, _ => absurd h (by omega)
  | 1, _, hk => ⟨Nat.le_refl _, Nat.le_refl _, h0, hk⟩
  | bound + 2, _, hk => by
    unfold monthOfDay
    split
    · exact ⟨by omega, Nat.le_refl _, by assumption, hk⟩
    · rename_i hlt
      have ih := monthOfDay_bounds year h0 (bound + 1) (by omega)
        (Int.not_le.mp hlt)
      exact ⟨ih.1, by omega, ih.2.2.1, ih.2.2.2⟩

/-- A day of the year belongs to one month only. -/
theorem monthOfDay_eq {year k : Int} {month : Nat} (hm : 1 ≤ month ∧ month ≤ 12)
    (h : daysBeforeMonth year month ≤ k ∧ k < daysBeforeMonth year (month + 1)) :
    monthOfDay year k 12 = month := by
  have h0 : 0 ≤ k := Int.le_trans (daysBeforeMonth_mono year (Nat.zero_le month)) h.1
  have h13 : daysBeforeMonth year (month + 1) ≤ daysBeforeMonth year (12 + 1) :=
    daysBeforeMonth_mono year (by omega)
  have hb := monthOfDay_bounds year h0 12 (by omega) (by omega)
  rcases Nat.lt_trichotomy (monthOfDay year k 12) month with hlt | heq | hgt
  · have := daysBeforeMonth_mono year (show monthOfDay year k 12 + 1 ≤ month by omega)
    omega
  · exact heq
  · have := daysBeforeMonth_mono year (show month + 1 ≤ monthOfDay year k 12 by omega)
    omega

/-- A date is found again from its day number. -/
@[simp] theorem ofDayNumber?_dayNumber (d : Date) : ofDayNumber? d.dayNumber = some d := by
  have hm := daysBeforeMonth_bounds d.year d.month_range
  have hd := d.day_range
  have hs := daysBeforeYear_succ d.year
  have hn : d.dayNumber = daysBeforeYear d.year + daysBeforeMonth d.year d.month + (d.day - 1) := rfl
  have hy : yearOfDay d.dayNumber = d.year := yearOfDay_eq (by omega)
  have hmo : monthOfDay d.year (d.dayNumber - daysBeforeYear d.year) 12 = d.month :=
    monthOfDay_eq d.month_range (by rw [daysBeforeMonth_succ d.month_range.1]; omega)
  unfold ofDayNumber?
  simp only [hy, hmo]
  rw [ofYmd?_eq_some_iff]
  exact ⟨rfl, rfl, by omega⟩

/-- The date found from a day number has that day number. -/
theorem dayNumber_ofDayNumber? {n : Int} {d : Date} (h : ofDayNumber? n = some d) :
    d.dayNumber = n := by
  obtain ⟨hy, hm, hd⟩ := ofYmd?_eq_some_iff.mp h
  have hb := yearOfDay_bounds n
  have h0 : 0 ≤ n - daysBeforeYear (yearOfDay n) := by omega
  have hs := daysBeforeYear_succ (yearOfDay n)
  have h13 : daysBeforeMonth (yearOfDay n) (12 + 1) = yearLength (yearOfDay n) :=
    daysBeforeMonth_thirteen (yearOfDay n)
  have hmb := monthOfDay_bounds (yearOfDay n) h0 12 (by omega) (by omega)
  unfold dayNumber monthStart
  rw [hy, hm, hd]
  omega

theorem ofDayNumber?_eq_some_iff {n : Int} {d : Date} : ofDayNumber? n = some d ↔ d.dayNumber = n :=
  ⟨dayNumber_ofDayNumber?, fun h => h ▸ ofDayNumber?_dayNumber d⟩

/-- Two dates with one day number are one date. -/
theorem dayNumber_inj {a b : Date} : a.dayNumber = b.dayNumber ↔ a = b :=
  ⟨fun h => Option.some.inj ((ofDayNumber?_dayNumber a).symm.trans (h ▸ ofDayNumber?_dayNumber b)),
    fun h => h ▸ rfl⟩

end Date

/-! ### Months -/

/-- The number of days in a month, or 0 when the calendar has no such month. -/
def daysInMonth (year : Int) (month : Nat) : Nat :=
  if (minYear ≤ year ∧ year ≤ maxYear) ∧ 1 ≤ month ∧ month ≤ 12 then monthLength year month else 0

/-- A day of the month, moved back to the last day of the month if it lies after it. -/
def clampDay (year : Int) (month day : Nat) : Nat := min day (daysInMonth year month)

namespace Date

/-- The date on a day of a month, moved back to the last day of the month if it lies after it. -/
def clamped? (year : Int) (month day : Nat) : Option Date :=
  ofYmd? year month (max 1 (clampDay year month day))

/-- Months counted from the first month of year 0. -/
def monthIndex (d : Date) : Int := d.year * 12 + (d.month - 1 : Int)

/-- The date a number of whole months later, on the same day of the month or, in a shorter month,
on its last day. -/
def addMonths? (d : Date) (months : Nat) : Option Date :=
  let index := d.monthIndex + months
  let year := index / 12
  let month := (index % 12).toNat + 1
  ofYmd? year month (min d.day (monthLength year month))

end Date

end Reminders
