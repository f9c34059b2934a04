import Reminders.Proofs.Schedule.Reanchor

/-!
Schedules go on.

A schedule has no end of its own: its charges end with the calendar, and the calendar goes on long
after the year 9999. So a schedule that started in a year of four digits and has a second charge at
all has charges from every day of those years on, because its interval is no longer than these years
are.

* `Date.exists_isStep_from`: multiples of a step lead past any day of four-digit years.
* `Schedule.exists_occurs_from`, `Subscription.exists_nextOnOrAfter?`
-/

namespace Reminders

namespace Date

variable {a d today : Date}

/-- The days of a year. -/
theorem dayNumber_of_year (d : Date) :
    daysBeforeYear d.year ≤ d.dayNumber ∧ d.dayNumber < daysBeforeYear (d.year + 1) := by
  have := daysBeforeMonth_bounds d.year d.month_range
  have := daysBeforeYear_succ d.year
  have := d.dayNumber_bounds
  unfold monthStart at *
  omega

/-- The calendar has the month that lies some months after a date, unless it is over by then. -/
theorem exists_addMonths {n : Nat} (within : a.monthIndex + n ≤ Date.last.monthIndex) :
    ∃ e : Date, e.monthIndex = a.monthIndex + n ∧ e.FallsOn a.day := by
  cases found : a.addMonths? n with
  | some e => exact ⟨e, addMonths?_eq_some_iff.mp found⟩
  | none =>
    have := monthIndex_lt_of_addMonths?_eq_none found Date.last
    omega

/-- Some multiple of a step covers a gap, and no more than a step beyond it. -/
theorem exists_multiple (gap : Nat) {step : Nat} (pos : 0 < step) :
    ∃ j : Nat, gap ≤ j * step ∧ j * step ≤ gap + step := by
  refine ⟨gap / step + 1, ?_, ?_⟩
  · have := Nat.lt_div_mul_add pos (a := gap)
    rw [Nat.succ_mul]
    omega
  · have := Nat.div_mul_le_self gap step
    rw [Nat.succ_mul]
    omega

/-- Steps of days lead past a day of four-digit years, when one of them is shorter than what lies
between. -/
theorem exists_dayStep_from {n : Nat} (pos : 0 < n) (short : a.dayNumber + n < today.dayNumber)
    (first : 0 ≤ a.year) (last : today.year ≤ 9999) :
    ∃ (j : Nat) (e : Date), e.dayNumber = a.dayNumber + (j * n : Nat) ∧ today ≤ e := by
  obtain ⟨j, covers, near⟩ := exists_multiple (today.dayNumber - a.dayNumber).toNat pos
  have start := (dayNumber_of_year a).1
  have stop := (dayNumber_of_year today).2
  have zero : daysBeforeYear 0 ≤ daysBeforeYear a.year := daysBeforeYear_mono first
  have tenThousand : daysBeforeYear (today.year + 1) ≤ daysBeforeYear 10000 :=
    daysBeforeYear_mono (by omega)
  have room : 2 * daysBeforeYear 10000 - daysBeforeYear 0 ≤ Date.last.dayNumber := by decide
  obtain ⟨e, number⟩ := exists_dayNumber_eq (a := a) (b := Date.last)
    (n := a.dayNumber + (j * n : Nat)) (by omega) (by omega)
  refine ⟨j, e, number, ?_⟩
  rw [le_iff]
  omega

/-- Steps of months lead past a day of four-digit years, when one of them is no longer than what
lies between. -/
theorem exists_monthStep_from {n : Nat} (pos : 0 < n)
    (short : a.monthIndex + n ≤ today.monthIndex) (first : 0 ≤ a.year)
    (last : today.year ≤ 9999) :
    ∃ (j : Nat) (e : Date), e.monthIndex = a.monthIndex + (j * n : Nat) ∧ e.FallsOn a.day ∧
      today ≤ e := by
  obtain ⟨j, covers, near⟩ := exists_multiple (today.monthIndex - a.monthIndex + 1).toNat pos
  have room : Date.last.monthIndex = 262142 * 12 + 11 := rfl
  have start := a.month_range
  have stop := today.month_range
  have within : a.monthIndex + (j * n : Nat) ≤ Date.last.monthIndex := by
    rw [room]
    unfold monthIndex at *
    omega
  obtain ⟨e, index, falls⟩ := exists_addMonths within
  exact ⟨j, e, index, falls, Int.le_of_lt (lt_of_monthIndex_lt (by omega))⟩

/-- No steps lead nowhere. -/
theorem eq_of_isStep_zero {unit : IntervalUnit} (step : a.IsStep unit 0 d) : d = a := by
  cases unit with
  | day => exact dayNumber_inj.mp (step.trans (Int.add_zero _))
  | week => exact dayNumber_inj.mp (step.trans (Int.add_zero _))
  | month => exact eq_of_fallsOn (step.1.trans (Int.add_zero _)) step.2 a.fallsOn_day
  | year => exact eq_of_fallsOn (step.1.trans (Int.add_zero _)) step.2 a.fallsOn_day

/-- **Multiples of a step** that leads to a later date lead past any day of four-digit years. -/
theorem exists_isStep_from {unit : IntervalUnit} {n : Nat} (step : a.IsStep unit n d) (less : a < d)
    (first : 0 ≤ a.year) (last : today.year ≤ 9999) :
    ∃ (j : Nat) (e : Date), a.IsStep unit (j * n) e ∧ today ≤ e := by
  rcases Int.lt_or_le d.dayNumber today.dayNumber with before | after
  · have pos : 0 < n := by
      refine Nat.pos_of_ne_zero ?_
      rintro rfl
      cases eq_of_isStep_zero step
      exact Int.lt_irrefl _ less
    rw [lt_iff] at less
    cases unit with
    | day =>
      have step : d.dayNumber = a.dayNumber + n := step
      exact exists_dayStep_from pos (by omega) first last
    | week =>
      have step : d.dayNumber = a.dayNumber + 7 * n := step
      obtain ⟨j, e, number, le⟩ :=
        exists_dayStep_from (n := 7 * n) (by omega) (by omega) first last
      refine ⟨j, e, ?_, le⟩
      rw [Nat.mul_left_comm] at number
      exact number
    | month =>
      have index : d.monthIndex = a.monthIndex + n := step.1
      have := monthIndex_le_of_le (Int.le_of_lt before)
      obtain ⟨j, e, index, falls, le⟩ := exists_monthStep_from pos (by omega) first last
      exact ⟨j, e, ⟨index, falls⟩, le⟩
    | year =>
      have index : d.monthIndex = a.monthIndex + 12 * n := step.1
      have := monthIndex_le_of_le (Int.le_of_lt before)
      obtain ⟨j, e, index, falls, le⟩ :=
        exists_monthStep_from (n := 12 * n) (by omega) (by omega) first last
      refine ⟨j, e, ⟨?_, falls⟩, le⟩
      rw [Nat.mul_left_comm] at index
      exact index
  · exact ⟨1, d, by rwa [Nat.one_mul], after⟩

/-- The year after has a date that falls on a day of a month. -/
theorem exists_fallsOn_next_year (d : Date) {month day : Nat} (last : d.year ≤ 9999)
    (months : 1 ≤ month ∧ month ≤ 12) (pos : 1 ≤ day) :
    ∃ e : Date, d < e ∧ e.month = month ∧ e.FallsOn day := by
  have years := d.year_range
  have there : clamped? (d.year + 1) month day ≠ none := by
    refine clamped?_ne_none ⟨by omega, ?_⟩ months
    unfold maxYear
    omega
  obtain ⟨e, found⟩ := Option.ne_none_iff_exists'.mp there
  obtain ⟨year, month, falls⟩ := (clamped?_eq_some_iff pos).mp found
  refine ⟨e, lt_of_monthIndex_lt ?_, month, falls⟩
  have := d.month_range
  have := e.month_range
  unfold monthIndex
  omega

end Date

/-- **A schedule that has a second charge goes on** through all years of four digits. -/
theorem Schedule.exists_occurs_from {s : Schedule} {d : Date} (charge : s.Occurs d)
    (less : s.anchor < d) (first : 0 ≤ s.anchor.year) (today : Date) (last : today.year ≤ 9999) :
    ∃ e, s.Occurs e ∧ today ≤ e := by
  -- A rule by day is met in the year after the day, or the anchor comes after that day.
  have rule {P : Date → Prop} (met : ∃ e, today < e ∧ P e) :
      ∃ e, (e = s.anchor ∨ (s.anchor < e ∧ P e)) ∧ today ≤ e := by
    obtain ⟨e, later, holds⟩ := met
    rcases Int.lt_or_le s.anchor.dayNumber e.dayNumber with after | before
    · exact ⟨e, .inr ⟨after, holds⟩, Int.le_of_lt later⟩
    · exact ⟨s.anchor, .inl rfl, Int.le_trans (Int.le_of_lt later) before⟩
  obtain ⟨anchor, recurrence⟩ := s
  cases recurrence with
  | every count unit pos =>
    obtain ⟨k, step⟩ := charge
    obtain ⟨j, e, step', le⟩ := Date.exists_isStep_from step less first last
    exact ⟨e, ⟨j * k, by rwa [Nat.mul_assoc]⟩, le⟩
  | monthly day range =>
    apply rule
    obtain ⟨e, later, -, falls⟩ :=
      today.exists_fallsOn_next_year last (by decide : 1 ≤ 1 ∧ 1 ≤ 12) range.1
    exact ⟨e, later, falls⟩
  | yearly month day monthRange dayRange =>
    exact rule (today.exists_fallsOn_next_year last monthRange dayRange.1)

/-- A subscription whose date is over by a day, and which has a charge from that day on, has one
from every day of four-digit years on. -/
theorem Subscription.exists_nextOnOrAfter? {s : Subscription} {a t next : Date} (today : Date)
    (stored : s.nextOccurrence = some a) (late : a < t) (found : s.nextOnOrAfter? t = some next)
    (first : 0 ≤ a.year) (last : today.year ≤ 9999) :
    ∃ d, s.nextOnOrAfter? today = some d := by
  obtain ⟨⟨charge, le⟩, -⟩ := (isFirst_nextOnOrAfter? s t).eq_some_iff.mp found
  obtain ⟨schedule, known⟩ := Option.isSome_iff_exists.mp ((isSome_schedule?_iff s).mpr charge.1)
  obtain ⟨-, anchor, -⟩ := schedule?_eq_some_iff.mp known
  cases stored.symm.trans anchor
  obtain ⟨e, occurs, later⟩ := Schedule.exists_occurs_from
    ((charges_iff_occurs known next).mp charge) (Int.lt_of_lt_of_le late le) first today last
  rw [← Option.ne_none_iff_exists']
  intro none
  have before := (isFirst_nextOnOrAfter? s today).eq_none_iff.mp none e
    ((charges_iff_occurs known e).mpr occurs)
  exact absurd later (Int.not_le.mpr before)

end Reminders
