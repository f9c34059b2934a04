import Reminders.Proofs.Schedule.Counting

/-!
Charges in a month.

A shorter month moves a charge back to its last day, but neither loses it nor brings it twice: in
each month there is exactly one date that falls on a given day.

* `Date.IsMonth`: a month as the range from its first day to that of the next month.
* `ncard_monthStep`, `ncard_dayStep`, `ncard_rule_anchor`: how many steps of an interval lie in a
  month, and how many dates of a rule by day lie in the month of the anchor.
* `Subscription.countBetween_month`: how often a subscription charges in a month.
-/

namespace Reminders

namespace Date

/-- A month of the calendar, by its first day and the first day of the month after it. -/
structure IsMonth (first stop : Date) : Prop where
  opens : first.day = 1
  closes : stop.day = 1
  next : stop.monthIndex = first.monthIndex + 1

variable {a d e first stop : Date} {day : Nat}

/-- Dates of one month are ordered by their days. -/
theorem dayNumber_sub_of_monthIndex_eq (same : d.monthIndex = e.monthIndex) :
    d.dayNumber - e.dayNumber = d.day - e.day := by
  obtain ⟨hy, hm⟩ := year_eq_of_monthIndex same
  obtain ⟨hy', hm'⟩ := year_eq_of_monthIndex (rfl : e.monthIndex = e.monthIndex)
  unfold dayNumber
  rw [hy.trans hy'.symm, hm.trans hm'.symm]
  omega

/-- The first day of a month is not after a date exactly when the month is not after that of the
date. -/
theorem le_iff_of_day_eq_one (opens : first.day = 1) :
    first ≤ d ↔ first.monthIndex ≤ d.monthIndex := by
  refine ⟨monthIndex_le_of_le, fun le => ?_⟩
  rcases Int.lt_or_eq_of_le le with lt | same
  · exact Int.le_of_lt (lt_of_monthIndex_lt lt)
  · have := dayNumber_sub_of_monthIndex_eq same
    have := d.day_range.1
    rw [le_iff]
    omega

namespace IsMonth

/-- The dates of the range are those of the month. -/
theorem mem_iff (month : IsMonth first stop) :
    (first ≤ d ∧ d < stop) ↔ d.monthIndex = first.monthIndex := by
  have start := le_iff_of_day_eq_one (d := d) month.opens
  have finish := le_iff_of_day_eq_one (d := d) month.closes
  have next := month.next
  rw [start, lt_iff, ← Int.not_le, ← le_iff, finish]
  omega

theorem datesIn_eq (month : IsMonth first stop) (P : Date → Prop) :
    datesIn P first stop = {d | P d ∧ d.monthIndex = first.monthIndex} :=
  Set.ext fun _ => and_congr_right fun _ => month.mem_iff

/-- A month has as many days as it is long. -/
theorem dayNumber_stop (month : IsMonth first stop) :
    stop.dayNumber = first.dayNumber + monthLength first.year first.month := by
  obtain ⟨opens, closes, next⟩ := month
  obtain ⟨hy, hm⟩ := year_eq_of_monthIndex next
  have length : daysBeforeMonth first.year (first.month + 1) =
      daysBeforeMonth first.year first.month + monthLength first.year first.month :=
    daysBeforeMonth_succ first.month_range.1
  have range := first.month_range
  unfold dayNumber monthStart
  unfold monthIndex at hy hm
  rw [opens, closes]
  by_cases december : first.month = 12
  · have wrap : daysBeforeMonth (first.year + 1) 1 = 0 := rfl
    have whole := daysBeforeMonth_thirteen first.year
    rw [show stop.year = first.year + 1 by omega, show stop.month = 1 by omega,
      daysBeforeYear_succ, wrap]
    rw [december] at length ⊢
    rw [length] at whole
    omega
  · rw [show stop.year = first.year by omega, show stop.month = first.month + 1 by omega, length]
    omega

end IsMonth

/-- Each month has a date that falls on a day. -/
theorem exists_fallsOn (first : Date) (pos : 1 ≤ day) :
    ∃ d : Date, d.monthIndex = first.monthIndex ∧ d.FallsOn day := by
  have there : clamped? first.year first.month day ≠ none :=
    clamped?_ne_none first.year_range first.month_range
  obtain ⟨d, found⟩ := Option.ne_none_iff_exists'.mp there
  obtain ⟨hy, hm, falls⟩ := (clamped?_eq_some_iff pos).mp found
  exact ⟨d, by unfold monthIndex; rw [hy, hm], falls⟩

end Date

section Month

variable {P : Date → Prop} {a first stop : Date} {day step : Nat}

/-- Exactly one date of a month falls on a day. -/
theorem ncard_month_eq_one (month : Date.IsMonth first stop) (pos : 1 ≤ day)
    (same : ∀ d, d.monthIndex = first.monthIndex → (P d ↔ d.FallsOn day)) :
    (datesIn P first stop).ncard = 1 := by
  obtain ⟨c, here, falls⟩ := Date.exists_fallsOn first pos
  rw [month.datesIn_eq, Set.ncard_eq_one]
  refine ⟨c, Set.ext fun d => ⟨?_, ?_⟩⟩
  · rintro ⟨hd, index⟩
    exact Date.eq_of_fallsOn (index.trans here.symm) ((same d index).mp hd) falls
  · rintro rfl
    exact ⟨(same d here).mpr falls, here⟩

theorem ncard_month_eq_zero (month : Date.IsMonth first stop)
    (without : ∀ d, d.monthIndex = first.monthIndex → ¬P d) : (datesIn P first stop).ncard = 0 := by
  have empty : {d | P d ∧ d.monthIndex = first.monthIndex} = ∅ :=
    Set.eq_empty_of_forall_notMem fun d hd => without d hd.2 hd.1
  rw [month.datesIn_eq, empty, Set.ncard_empty]

/-! ### Steps of an interval -/

/-- Steps of months meet a month once or not at all. -/
theorem ncard_monthStep (month : Date.IsMonth first stop) (le : a.monthIndex ≤ first.monthIndex) :
    (datesIn (MonthStep a step) first stop).ncard =
      if (step : Int) ∣ first.monthIndex - a.monthIndex then 1 else 0 := by
  split
  · rename_i divides
    obtain ⟨k, hk⟩ := Int.natAbs_dvd_natAbs.mpr divides
    refine ncard_month_eq_one month a.day_range.1 fun d here => ⟨fun ⟨_, _, falls⟩ => falls, ?_⟩
    intro falls
    refine ⟨k, ?_, falls⟩
    rw [Nat.mul_comm, ← Int.natAbs_natCast step, ← hk]
    omega
  · rename_i between
    refine ncard_month_eq_zero month fun d here ⟨k, index, _⟩ => between ⟨k, ?_⟩
    rw [Int.mul_comm, ← Int.natCast_mul]
    omega

/-- A month ends as many days after a date as its last day lies behind that date, and one more. -/
theorem Date.IsMonth.dayNumber_stop_of_mem (month : Date.IsMonth first stop)
    (here : first.monthIndex = a.monthIndex) :
    stop.dayNumber = a.dayNumber + (monthLength a.year a.month - a.day : Nat) + 1 := by
  obtain ⟨hy, hm⟩ := Date.year_eq_of_monthIndex here
  obtain ⟨hy', hm'⟩ := Date.year_eq_of_monthIndex (rfl : a.monthIndex = a.monthIndex)
  have length := month.dayNumber_stop
  rw [hy.trans hy'.symm, hm.trans hm'.symm] at length
  have := Date.dayNumber_sub_of_monthIndex_eq here
  have := month.opens
  have := a.day_range.2
  omega

/-- The day numbers of the steps of days in the month of their anchor. -/
theorem image_dayStep (month : Date.IsMonth first stop) (here : first.monthIndex = a.monthIndex)
    (pos : 0 < step) :
    Date.dayNumber '' datesIn (DayStep a step) first stop =
      (fun k : Nat => a.dayNumber + (k * step : Nat)) ''
        (Finset.range (1 + (monthLength a.year a.month - a.day) / step) : Set Nat) := by
  have finish := month.dayNumber_stop_of_mem here
  have start : first ≤ a := (Date.le_iff_of_day_eq_one month.opens).mpr (Int.le_of_eq here)
  rw [Date.le_iff] at start
  have steps (k : Nat) : k < 1 + (monthLength a.year a.month - a.day) / step ↔
      k * step ≤ monthLength a.year a.month - a.day := by
    rw [Nat.add_comm, Nat.lt_add_one_iff, Nat.le_div_iff_mul_le pos]
  ext n
  simp only [Set.mem_image, Finset.coe_range, Set.mem_Iio, steps]
  constructor
  · rintro ⟨d, ⟨⟨k, hk⟩, -, lt⟩, rfl⟩
    rw [Date.lt_iff] at lt
    exact ⟨k, by omega, hk.symm⟩
  · rintro ⟨k, le, rfl⟩
    obtain ⟨d, hd⟩ := Date.exists_dayNumber_eq (a := a) (b := stop)
      (n := a.dayNumber + (k * step : Nat)) (by omega) (by omega)
    refine ⟨d, ⟨⟨k, hd⟩, ?_, ?_⟩, hd⟩
    · rw [Date.le_iff]
      omega
    · rw [Date.lt_iff]
      omega

/-- Steps of days go on up to the end of the month of their anchor. -/
theorem ncard_dayStep (month : Date.IsMonth first stop) (here : first.monthIndex = a.monthIndex)
    (pos : 0 < step) :
    (datesIn (DayStep a step) first stop).ncard =
      1 + (monthLength a.year a.month - a.day) / step := by
  have inj : Set.InjOn Date.dayNumber (datesIn (DayStep a step) first stop) :=
    fun _ _ _ _ same => Date.dayNumber_inj.mp same
  have inj' : Function.Injective fun k : Nat => a.dayNumber + (k * step : Nat) := by
    intro k j same
    exact Nat.eq_of_mul_eq_mul_right pos (Int.ofNat_inj.mp (Int.add_left_cancel same))
  rw [← inj.ncard_image, image_dayStep month here pos, Set.ncard_image_of_injective _ inj',
    Set.ncard_coe_finset, Finset.card_range]

/-! ### Rules by day -/

/-- In the month of its anchor a rule by day has the anchor, and a later date unless the anchor is
past the day of the rule. -/
theorem ncard_rule_anchor (month : Date.IsMonth first stop)
    (here : first.monthIndex = a.monthIndex) (pos : 1 ≤ day) {Q : Date → Prop}
    (same : ∀ d, d.monthIndex = a.monthIndex → (Q d ↔ d.FallsOn day)) :
    (datesIn (fun d => d = a ∨ (a < d ∧ Q d)) first stop).ncard =
      if a.day < min day (monthLength a.year a.month) then 2 else 1 := by
  obtain ⟨c, there, falls⟩ := Date.exists_fallsOn a pos
  obtain ⟨hy, hm⟩ := Date.year_eq_of_monthIndex there
  obtain ⟨hy', hm'⟩ := Date.year_eq_of_monthIndex (rfl : a.monthIndex = a.monthIndex)
  have ruleDay : c.day = min day (monthLength a.year a.month) := by
    rw [show c.day = _ from falls, hy.trans hy'.symm, hm.trans hm'.symm]
  have order : a < c ↔ a.day < c.day := by
    have := Date.dayNumber_sub_of_monthIndex_eq there
    rw [Date.lt_iff]
    omega
  -- The date of the rule in this month is `c`, and it counts if it lies after the anchor.
  have dates : datesIn (fun d => d = a ∨ (a < d ∧ Q d)) first stop =
      {d | d = a ∨ (a < c ∧ d = c)} := by
    rw [month.datesIn_eq, here]
    ext d
    constructor
    · rintro ⟨rfl | ⟨later, hQ⟩, index⟩
      · exact .inl rfl
      · have eq : d = c := Date.eq_of_fallsOn (index.trans there.symm) ((same d index).mp hQ) falls
        exact .inr ⟨eq ▸ later, eq⟩
    · rintro (rfl | ⟨later, rfl⟩)
      · exact ⟨.inl rfl, rfl⟩
      · exact ⟨.inr ⟨later, (same d there).mpr falls⟩, there⟩
  rw [dates, ← ruleDay]
  by_cases later : a.day < c.day
  · have pair : {d | d = a ∨ (a < c ∧ d = c)} = {a, c} := by
      ext d
      simp [order.mpr later]
    have apart : a ≠ c := fun eq => Nat.lt_irrefl _ (eq ▸ later)
    rw [if_pos later, pair, Set.ncard_pair apart]
  · have only : {d | d = a ∨ (a < c ∧ d = c)} = {a} := by
      ext d
      simp [mt order.mp later]
    rw [if_neg later, only, Set.ncard_singleton]

/-! ### Schedules -/

namespace Schedule

theorem countBetween_monthly_later (month : Date.IsMonth first stop) {range : 1 ≤ day ∧ day ≤ 31}
    (later : a.monthIndex < first.monthIndex) :
    (Schedule.mk a (.monthly day range)).countBetween first stop = 1 := by
  rw [countBetween_eq_ncard]
  refine ncard_month_eq_one month range.1 fun d here => ?_
  have after : a < d := Date.lt_of_monthIndex_lt (here ▸ later)
  have other : d ≠ a := fun eq => Int.lt_irrefl _ (eq ▸ after)
  simp only [Occurs, after, other, false_or, true_and]

theorem countBetween_yearly_later (month : Date.IsMonth first stop) {m : Nat}
    {monthRange : 1 ≤ m ∧ m ≤ 12} {range : 1 ≤ day ∧ day ≤ 31}
    (later : a.monthIndex < first.monthIndex) :
    (Schedule.mk a (.yearly m day monthRange range)).countBetween first stop =
      if first.month = m then 1 else 0 := by
  have occurs (d : Date) (here : d.monthIndex = first.monthIndex) :
      (Schedule.mk a (.yearly m day monthRange range)).Occurs d ↔
        first.month = m ∧ d.FallsOn day := by
    have after : a < d := Date.lt_of_monthIndex_lt (here ▸ later)
    have other : d ≠ a := fun eq => Int.lt_irrefl _ (eq ▸ after)
    have same : d.month = first.month :=
      (Date.year_eq_of_monthIndex here).2.trans (Date.year_eq_of_monthIndex rfl).2.symm
    simp only [Occurs, after, other, same, false_or, true_and]
  rw [countBetween_eq_ncard]
  split
  · rename_i its
    exact ncard_month_eq_one month range.1 fun d here => by rw [occurs d here, and_iff_right its]
  · rename_i other
    exact ncard_month_eq_zero month fun d here hd => other ((occurs d here).mp hd).1

theorem countBetween_monthly_anchor (month : Date.IsMonth first stop)
    {range : 1 ≤ day ∧ day ≤ 31} (here : first.monthIndex = a.monthIndex) :
    (Schedule.mk a (.monthly day range)).countBetween first stop =
      if a.day < min day (monthLength a.year a.month) then 2 else 1 := by
  rw [countBetween_eq_ncard]
  exact ncard_rule_anchor month here range.1 fun _ _ => Iff.rfl

theorem countBetween_yearly_anchor (month : Date.IsMonth first stop) {m : Nat}
    {monthRange : 1 ≤ m ∧ m ≤ 12} {range : 1 ≤ day ∧ day ≤ 31}
    (here : first.monthIndex = a.monthIndex) :
    (Schedule.mk a (.yearly m day monthRange range)).countBetween first stop =
      if a.month = m ∧ a.day < min day (monthLength a.year a.month) then 2 else 1 := by
  rw [countBetween_eq_ncard]
  have sameMonth {d : Date} (there : d.monthIndex = a.monthIndex) : d.month = a.month :=
    (Date.year_eq_of_monthIndex there).2.trans (Date.year_eq_of_monthIndex rfl).2.symm
  by_cases its : a.month = m
  · simp only [and_iff_right its]
    exact ncard_rule_anchor month here range.1 fun d there => by
      rw [sameMonth there, and_iff_right its]
  · -- The rule does not fall on this month, so there is the anchor alone.
    rw [if_neg fun both => its both.1]
    refine ncard_month_eq_one month a.day_range.1 fun d there => ?_
    have there := there.trans here
    constructor
    · rintro (rfl | ⟨-, itsToo, -⟩)
      · exact Date.fallsOn_day _
      · exact absurd ((sameMonth there).symm.trans itsToo) its
    · exact fun falls => .inl (Date.eq_of_fallsOn there falls a.fallsOn_day)

/-- The steps of an interval are steps of days or of months. -/
theorem occurs_every {count : Nat} {unit : IntervalUnit} {pos : 0 < count} :
    (Schedule.mk a (.every count unit pos)).Occurs =
      match unit with
      | .day => DayStep a count
      | .week => DayStep a (7 * count)
      | .month => MonthStep a count
      | .year => MonthStep a (12 * count) := by
  have times (k n : Nat) : ((k * (n * count) : Nat) : Int) = n * (k * count : Nat) := by
    rw [Nat.mul_left_comm, Int.natCast_mul]
  funext d
  cases unit with
  | day => rfl
  | week => simp only [Occurs, Date.IsStep, DayStep, times, Nat.cast_ofNat]
  | month => rfl
  | year => simp only [Occurs, Date.IsStep, MonthStep, times, Nat.cast_ofNat]

end Schedule

end Month

namespace Subscription

variable {s : Subscription} {a first stop : Date}

/-- The schedule that the columns of a subscription describe, and the count of its charges. -/
theorem exists_recurrence (valid : s.HasValidSchedule) (stored : s.nextOccurrence = some a) :
    ∃ r, s.recurrence? = some r ∧
      ∀ start stop, s.countBetween start stop = (Schedule.mk a r).countBetween start stop := by
  obtain ⟨⟨anchor, r⟩, found⟩ := Option.isSome_iff_exists.mp ((isSome_schedule?_iff s).mpr valid)
  obtain ⟨recurring, date, recurrence⟩ := schedule?_eq_some_iff.mp found
  obtain rfl : anchor = a := Option.some.inj (date.symm.trans stored)
  refine ⟨r, recurrence, fun start stop => ?_⟩
  unfold countBetween
  rw [show s.billingType = .recurring from recurring, found]

/-- **No month is skipped or doubled by clamping.** In a month after that of its stored date, a
subscription charges once by a day of the month, once or not at all by a day of the year, and once
by an interval of months or years exactly when a whole number of intervals lies between the months.
In the month of its stored date it charges once, or twice when its rule falls on a later day of that
month; by an interval of days or weeks it charges as often as the interval fits into what is left of
the month. -/
theorem countBetween_month (valid : s.HasValidSchedule) (stored : s.nextOccurrence = some a)
    (month : Date.IsMonth first stop) :
    (a.monthIndex < first.monthIndex →
      (s.recurrenceType = some .monthlyDate → s.countBetween first stop = 1) ∧
      (∀ m, s.recurrenceType = some .yearlyDate → s.yearlyMonth = some m →
        s.countBetween first stop = if first.month = m.toNat then 1 else 0) ∧
      (∀ n, s.recurrenceType = some .interval → s.intervalCount = some n →
        (s.intervalUnit = some .month → s.countBetween first stop =
          if (n.toNat : Int) ∣ first.monthIndex - a.monthIndex then 1 else 0) ∧
        (s.intervalUnit = some .year → s.countBetween first stop =
          if (12 * n.toNat : Int) ∣ first.monthIndex - a.monthIndex then 1 else 0))) ∧
    (first.monthIndex = a.monthIndex →
      (∀ day, s.recurrenceType = some .monthlyDate → s.monthlyDay = some day →
        s.countBetween first stop =
          if a.day < min day.toNat (monthLength a.year a.month) then 2 else 1) ∧
      (∀ m day, s.recurrenceType = some .yearlyDate → s.yearlyMonth = some m →
        s.yearlyDay = some day → s.countBetween first stop =
          if a.month = m.toNat ∧ a.day < min day.toNat (monthLength a.year a.month) then 2 else 1) ∧
      (∀ n unit, s.recurrenceType = some .interval → s.intervalCount = some n →
        s.intervalUnit = some unit → s.countBetween first stop =
          match unit with
          | .month | .year => 1
          | .day => 1 + (monthLength a.year a.month - a.day) / n.toNat
          | .week => 1 + (monthLength a.year a.month - a.day) / (7 * n.toNat))) := by
  obtain ⟨r, recurrence, count⟩ := exists_recurrence valid stored
  rw [count]
  rw [recurrence?_eq_some_iff] at recurrence
  constructor
  · intro later
    refine ⟨fun kind => ?_, fun m kind given => ?_, fun n kind given => ?_⟩
    · rw [kind] at recurrence
      obtain ⟨day, -, range, rfl⟩ := recurrence
      exact Schedule.countBetween_monthly_later month later
    · rw [kind] at recurrence
      obtain ⟨_, day, same, -, monthRange, range, rfl⟩ := recurrence
      obtain rfl := Option.some.inj (same.symm.trans given)
      exact Schedule.countBetween_yearly_later month later
    · rw [kind] at recurrence
      obtain ⟨_, unit, same, unitGiven, pos, rfl⟩ := recurrence
      obtain rfl := Option.some.inj (same.symm.trans given)
      rw [unitGiven, Schedule.countBetween_eq_ncard, Schedule.occurs_every]
      constructor
      · rintro ⟨⟩
        exact ncard_monthStep month (Int.le_of_lt later)
      · rintro ⟨⟩
        exact (ncard_monthStep month (Int.le_of_lt later)).trans (by rw [Int.natCast_mul]; rfl)
  · intro here
    refine ⟨fun day kind given => ?_, fun m day kind given dayGiven => ?_,
      fun n unit kind given unitGiven => ?_⟩
    · rw [kind] at recurrence
      obtain ⟨_, same, range, rfl⟩ := recurrence
      obtain rfl := Option.some.inj (same.symm.trans given)
      exact Schedule.countBetween_monthly_anchor month here
    · rw [kind] at recurrence
      obtain ⟨_, _, same, sameDay, monthRange, range, rfl⟩ := recurrence
      obtain rfl := Option.some.inj (same.symm.trans given)
      obtain rfl := Option.some.inj (sameDay.symm.trans dayGiven)
      exact Schedule.countBetween_yearly_anchor month here
    · rw [kind] at recurrence
      obtain ⟨_, unit', same, sameUnit, pos, rfl⟩ := recurrence
      obtain rfl := Option.some.inj (same.symm.trans given)
      obtain rfl := Option.some.inj (sameUnit.symm.trans unitGiven)
      rw [Schedule.countBetween_eq_ncard, Schedule.occurs_every]
      have once {step : Nat} : (datesIn (MonthStep a step) first stop).ncard = 1 := by
        have none : (step : Int) ∣ first.monthIndex - a.monthIndex := by
          rw [here, Int.sub_self]
          exact Int.dvd_zero _
        rw [ncard_monthStep month (Int.le_of_eq here.symm), if_pos none]
      cases unit' with
      | day => exact ncard_dayStep month here pos
      | week => exact ncard_dayStep month here (Nat.mul_pos (by decide) pos)
      | month => exact once
      | year => exact once

end Subscription

namespace Sample

/-- The first day of January. -/
def newYear : Date := (Date.ofYmd? 2026 1 1).getD .first

/-- The first day of February. -/
def firstOfFebruary : Date := (Date.ofYmd? 2026 2 1).getD .first

/-- The first day of March. -/
def firstOfMarch : Date := (Date.ofYmd? 2026 3 1).getD .first

/-- A charge on the last day of each month, from the first day of January on. -/
def early : Subscription := { monthEnd with nextOccurrence := some newYear }

/-- A charge on each day, from the first day of January on. -/
def daily : Subscription :=
  { early with
    recurrenceType := some .interval
    intervalCount := some 1
    intervalUnit := some .day }

end Sample

open Sample in
/-- A charge on the last day of each month comes twice in the month in which an earlier date is
stored, and once in the next month, which is shorter. -/
theorem Subscription.countBetween_month_sample :
    early.HasValidSchedule ∧ newYear.IsMonth firstOfFebruary ∧
      firstOfFebruary.IsMonth firstOfMarch ∧
      early.countBetween newYear firstOfFebruary = 2 ∧
      early.countBetween firstOfFebruary firstOfMarch = 1 := by
  have valid : early.HasValidSchedule := ⟨rfl, rfl, 31, rfl, by decide, by decide⟩
  have january : newYear.IsMonth firstOfFebruary := ⟨rfl, rfl, by decide⟩
  have next : firstOfFebruary.IsMonth firstOfMarch := ⟨rfl, rfl, by decide⟩
  obtain ⟨-, own⟩ := countBetween_month valid rfl january
  obtain ⟨later, -⟩ := countBetween_month valid rfl next
  exact ⟨valid, january, next, (own rfl).1 31 rfl rfl, (later (by decide)).1 rfl⟩

open Sample in
/-- An interval of days may charge more than once in the month of its stored date, though it is no
rule by day. -/
theorem Subscription.daily_charges_throughout_its_month :
    daily.HasValidSchedule ∧ daily.nextOccurrence = some newYear ∧ newYear.IsMonth firstOfFebruary ∧
      daily.recurrenceType ≠ some .monthlyDate ∧ daily.recurrenceType ≠ some .yearlyDate ∧
      daily.countBetween newYear firstOfFebruary = 31 ∧
      ¬daily.countBetween newYear firstOfFebruary = 1 := by
  have valid : daily.HasValidSchedule := ⟨rfl, rfl, ⟨1, rfl, by decide⟩, rfl⟩
  have all : daily.countBetween newYear firstOfFebruary = 31 := by decide +kernel
  exact ⟨valid, rfl, ⟨rfl, rfl, by decide⟩, by decide, by decide, all, by rw [all]; decide⟩

end Reminders
