import Reminders.Calendar.Months
import Reminders.Schedule.Recurrence

/-!
The next charge of a schedule.

`Schedule.next?` is the first date of a schedule that is not before a given day. It jumps there: by
rounding a quotient up for days and weeks, by looking at this month or year and the one after for
the rules by day, and, for steps of months, by starting at the last step that can be too early.
`le_of_next?` says that the date found is not before the day asked for.
-/

namespace Reminders

/-- The first of the dates `step` months apart, starting `k` steps after `anchor`, that is not
before `start`. A date before `start` lies in no later month, so the search ends. -/
def firstMonthStep? (anchor start : Date) (step : Nat) (pos : 0 < step) (k : Nat) : Option Date :=
  match _found : anchor.addMonths? (k * step) with
  | none => none
  | some d => if start ≤ d then some d else firstMonthStep? anchor start step pos (k + 1)
termination_by (start.monthIndex + 1 - (anchor.monthIndex + (k * step : Nat))).toNat
decreasing_by
  rename_i hlt
  have hle : d ≤ start := by
    rw [Date.le_iff] at hlt ⊢; omega
  have := Date.monthIndex_le_of_le hle
  have := Date.monthIndex_addMonths? _found
  have : (k + 1) * step = k * step + step := Nat.succ_mul k step
  omega

/-- The first of the dates `step` days apart, from `anchor` on, that is not before `start`. -/
def firstDayStep? (anchor start : Date) (step : Nat) : Option Date :=
  let gap := start.daysSince anchor
  anchor.addDays? ((gap + step - 1) / step * step)

/-- The first date from `start` on that falls on a day of the month. -/
def nextMonthDay? (start : Date) (day : Nat) : Option Date :=
  if 1 ≤ day ∧ day ≤ 31 then
    match Date.clamped? start.year start.month day with
    | none => none
    | some this =>
      if start ≤ this then some this
      else if start.month = 12 then Date.clamped? (start.year + 1) 1 day
      else Date.clamped? start.year (start.month + 1) day
  else none

/-- The first date from `start` on that falls on a day of the year. -/
def nextYearDay? (start : Date) (month day : Nat) : Option Date :=
  if (1 ≤ month ∧ month ≤ 12) ∧ (1 ≤ day ∧ day ≤ 31) then
    match Date.clamped? start.year month day with
    | none => none
    | some this => if start ≤ this then some this else Date.clamped? (start.year + 1) month day
  else none

/-- The first step of an interval that is not before `start`, for an anchor before `start`. -/
def firstStep? (anchor start : Date) (count : Nat) (pos : 0 < count) : IntervalUnit → Option Date
  | .day => firstDayStep? anchor start count
  | .week => firstDayStep? anchor start (count * 7)
  | .month =>
    firstMonthStep? anchor start count pos ((start.monthIndex - anchor.monthIndex).toNat / count)
  | .year =>
    firstMonthStep? anchor start (count * 12) (Nat.mul_pos pos (Nat.succ_pos 11))
      ((start.monthIndex - anchor.monthIndex).toNat / (count * 12))

/-- The first date of a schedule that is not before `start`. -/
def Schedule.next? (s : Schedule) (start : Date) : Option Date :=
  if start ≤ s.anchor then some s.anchor
  else match s.recurrence with
    | .every count unit pos => firstStep? s.anchor start count pos unit
    | .monthly day _ => nextMonthDay? start day
    | .yearly month day _ _ => nextYearDay? start month day

/-! ### The date found is not before the day asked for -/

theorem Date.dayNumber_addDays? {d e : Date} {n : Int} (h : d.addDays? n = some e) :
    e.dayNumber = d.dayNumber + n := Date.dayNumber_ofDayNumber? h

theorem le_of_firstMonthStep? {anchor start d : Date} {step : Nat} {pos : 0 < step} {k : Nat}
    (h : firstMonthStep? anchor start step pos k = some d) : start ≤ d := by
  fun_induction firstMonthStep? anchor start step pos k with
  | case1 => cases h
  | case2 k e _ hle => cases h; exact hle
  | case3 k e _ _ ih => exact ih h

theorem le_of_firstDayStep? {anchor start d : Date} {step : Nat} (pos : 0 < step)
    (h : firstDayStep? anchor start step = some d) : start ≤ d := by
  have hn := Date.dayNumber_addDays? h
  have hd := Int.emod_add_mul_ediv (start.daysSince anchor + step - 1) step
  have hm := Int.emod_lt_of_pos (start.daysSince anchor + step - 1) (Int.natCast_pos.mpr pos)
  rw [Int.mul_comm] at hd
  unfold Date.daysSince at *
  rw [Date.le_iff]
  omega

theorem lt_clamped?_of_year_lt {start d : Date} {year : Int} {month day : Nat}
    (h : Date.clamped? year month day = some d) (hy : start.monthIndex < year * 12 + (month - 1 : Int)) :
    start < d := by
  obtain ⟨h1, h2, -⟩ := Date.ofYmd?_eq_some_iff.mp h
  apply Date.lt_of_monthIndex_lt
  unfold Date.monthIndex at *
  rw [h1, h2]
  exact hy

theorem le_of_nextMonthDay? {start d : Date} {day : Nat} (h : nextMonthDay? start day = some d) :
    start ≤ d := by
  have hm := start.month_range
  unfold nextMonthDay? at h
  split at h
  · split at h
    · cases h
    · split at h
      · cases h; assumption
      · split at h
        · rename_i h12
          refine Int.le_of_lt (lt_clamped?_of_year_lt h ?_)
          unfold Date.monthIndex; omega
        · refine Int.le_of_lt (lt_clamped?_of_year_lt h ?_)
          unfold Date.monthIndex; omega
  · cases h

theorem le_of_nextYearDay? {start d : Date} {month day : Nat}
    (h : nextYearDay? start month day = some d) : start ≤ d := by
  have hm := start.month_range
  unfold nextYearDay? at h
  split at h
  · rename_i hr
    split at h
    · cases h
    · split at h
      · cases h; assumption
      · refine Int.le_of_lt (lt_clamped?_of_year_lt h ?_)
        unfold Date.monthIndex; omega
  · cases h

theorem le_of_firstStep? {anchor start d : Date} {count : Nat} {pos : 0 < count}
    {unit : IntervalUnit} (h : firstStep? anchor start count pos unit = some d) : start ≤ d := by
  cases unit with
  | day => exact le_of_firstDayStep? pos h
  | week => exact le_of_firstDayStep? (Nat.mul_pos pos (by decide)) h
  | month => exact le_of_firstMonthStep? h
  | year => exact le_of_firstMonthStep? h

/-- The next charge is not before the day asked for. -/
theorem le_of_next? {s : Schedule} {start d : Date} (h : s.next? start = some d) : start ≤ d := by
  unfold Schedule.next? at h
  split at h
  · cases h; assumption
  · split at h
    · exact le_of_firstStep? h
    · exact le_of_nextMonthDay? h
    · exact le_of_nextYearDay? h

end Reminders
