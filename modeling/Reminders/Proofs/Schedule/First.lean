import Reminders.Proofs.Calendar.Reach
import Reminders.Subscription.Basic

/-!
The next charge is the first one.

`Schedule.next?` jumps to its answer. This module compares the answer with the set of the dates on
which the schedule charges.

* `IsFirst` — what an answer has to be: the least date of a set that is not before a day, or none
  when every date of the set is before that day.
* `isFirst_firstDayStep?`, `isFirst_firstMonthStep?`, `isFirst_nextMonthDay?`,
  `isFirst_nextYearDay?` — the four jumps, each against its set.
* `isFirst_next?` — the next charge of a schedule.
* `nextOnOrAfter?_isLeast` — the next charge of a subscription, against the set that its columns
  describe.
-/

namespace Reminders

/-- The answer is the least date of `P` from `start` on, or says that there is none. -/
def IsFirst (P : Date → Prop) (start : Date) : Option Date → Prop
  | some d => P d ∧ start ≤ d ∧ ∀ e, P e → start ≤ e → d ≤ e
  | none => ∀ e, P e → e < start

namespace IsFirst

variable {P Q : Date → Prop} {start d : Date} {answer : Option Date}

/-- Only the dates from `start` on matter. -/
theorem congr (same : ∀ e, start ≤ e → (P e ↔ Q e)) (h : IsFirst P start answer) :
    IsFirst Q start answer := by
  cases answer with
  | some d =>
    obtain ⟨mem, le, least⟩ := h
    exact ⟨(same d le).mp mem, le, fun e he le' => least e ((same e le').mpr he) le'⟩
  | none =>
    intro e he
    by_contra later
    have le : start ≤ e := Int.not_lt.mp later
    exact later (h e ((same e le).mpr he))

/-- The answer is a date exactly when that date is the least one. -/
theorem eq_some_iff (h : IsFirst P start answer) :
    answer = some d ↔ IsLeast {e | P e ∧ start ≤ e} d := by
  constructor
  · rintro rfl
    obtain ⟨mem, le, least⟩ := h
    exact ⟨⟨mem, le⟩, fun e he => least e he.1 he.2⟩
  · rintro ⟨⟨mem, le⟩, least⟩
    cases answer with
    | none =>
      have := Date.lt_iff.mp (h d mem)
      have := Date.le_iff.mp le
      omega
    | some e =>
      obtain ⟨mem', le', least'⟩ := h
      have := Date.le_iff.mp (least' d mem le)
      have := Date.le_iff.mp (least ⟨mem', le'⟩)
      exact congrArg some (Date.dayNumber_inj.mp (by omega))

/-- There is no answer exactly when every date is before `start`. -/
theorem eq_none_iff (h : IsFirst P start answer) : answer = none ↔ ∀ e, P e → e < start := by
  cases answer with
  | none => exact iff_of_true rfl h
  | some d =>
    apply iff_of_false (by simp)
    intro all
    have := Date.lt_iff.mp (all d h.1)
    have := Date.le_iff.mp h.2.1
    omega

end IsFirst

/-! ### Steps of days -/

/-- The dates some steps of days after `anchor`. -/
def DayStep (anchor : Date) (step : Nat) (d : Date) : Prop :=
  ∃ k : Nat, d.dayNumber = anchor.dayNumber + (k * step : Nat)

/-- The quotient rounded up is the least number of steps that covers a gap. -/
theorem exists_least_steps {gap : Int} {step : Nat} (pos : 0 < step) (late : 0 < gap) :
    ∃ n : Nat, (gap + step - 1) / step = n ∧ gap ≤ (n * step : Nat) ∧
      ∀ k : Nat, gap ≤ (k * step : Nat) → n ≤ k := by
  have pos' : (0 : Int) < step := by omega
  obtain ⟨n, hn⟩ := Int.eq_ofNat_of_zero_le (a := (gap + step - 1) / step)
    (Int.ediv_nonneg (by omega) (by omega))
  have covers (k : Nat) : n ≤ k ↔ gap ≤ (k * step : Nat) := by
    have := Int.ediv_le_iff_le_mul (x := gap + step - 1) (y := k) pos'
    rw [hn] at this
    push_cast
    omega
  exact ⟨n, hn, (covers n).mp (Nat.le_refl n), fun k => (covers k).mpr⟩

theorem isFirst_firstDayStep? {anchor start : Date} {step : Nat} (pos : 0 < step)
    (late : anchor < start) :
    IsFirst (DayStep anchor step) start (firstDayStep? anchor start step) := by
  rw [Date.lt_iff] at late
  obtain ⟨n, hn, covers, least⟩ :=
    exists_least_steps pos (show 0 < start.daysSince anchor by unfold Date.daysSince; omega)
  have jump : firstDayStep? anchor start step = anchor.addDays? (n * step : Nat) := by
    unfold firstDayStep?
    simp only [hn]
    rw [Int.natCast_mul]
  have enough (e : Date) (he : DayStep anchor step e) (le : start ≤ e) :
      anchor.dayNumber + (n * step : Nat) ≤ e.dayNumber := by
    obtain ⟨k, hk⟩ := he
    rw [Date.le_iff] at le
    have := Nat.mul_le_mul_right step (least k (by unfold Date.daysSince; omega))
    omega
  rw [jump]
  unfold Date.daysSince at covers
  cases found : anchor.addDays? (n * step : Nat) with
  | some d =>
    have day := Date.dayNumber_addDays? found
    refine ⟨⟨n, day⟩, ?_, ?_⟩
    · rw [Date.le_iff]; omega
    · intro e he le
      have := enough e he le
      rw [Date.le_iff]; omega
  | none =>
    intro e he
    have beyond := Date.dayNumber_lt_of_addDays?_eq_none found e
    by_contra later
    have := enough e he (Int.not_lt.mp later)
    omega

/-! ### Steps of months -/

/-- The dates some steps of months after `anchor`, on its day of the month. -/
def MonthStep (anchor : Date) (step : Nat) (d : Date) : Prop :=
  ∃ k : Nat, d.monthIndex = anchor.monthIndex + (k * step : Nat) ∧ d.FallsOn anchor.day

/-- The search over steps of months finds the first date, from a step on before which every step is
too early. -/
theorem isFirst_firstMonthStep? {anchor start : Date} {step : Nat} {pos : 0 < step} {k : Nat}
    (early : ∀ j < k, ∀ e : Date, e.monthIndex = anchor.monthIndex + (j * step : Nat) →
      e.FallsOn anchor.day → e < start) :
    IsFirst (MonthStep anchor step) start (firstMonthStep? anchor start step pos k) := by
  fun_induction firstMonthStep? anchor start step pos k with
  | case1 k none =>
    rintro e ⟨j, month, day⟩
    rcases Nat.lt_or_ge j k with lt | ge
    · exact early j lt e month day
    · have := Date.monthIndex_lt_of_addMonths?_eq_none none e
      have := Nat.mul_le_mul_right step ge
      omega
  | case2 k d found le =>
    obtain ⟨month, day⟩ := Date.addMonths?_eq_some_iff.mp found
    refine ⟨⟨k, month, day⟩, le, ?_⟩
    rintro e ⟨j, month', day'⟩ le'
    rcases Nat.lt_trichotomy j k with lt | rfl | gt
    · exact absurd (Int.lt_of_lt_of_le (early j lt e month' day') le') (Int.lt_irrefl _)
    · rw [Date.eq_of_fallsOn (month.trans month'.symm) day day']
      exact Int.le_refl _
    · have := Nat.mul_lt_mul_of_pos_right gt pos
      exact Int.le_of_lt (Date.lt_of_monthIndex_lt (by omega))
  | case3 k d found late ih =>
    obtain ⟨month, day⟩ := Date.addMonths?_eq_some_iff.mp found
    apply ih
    intro j lt e month' day'
    rcases Nat.lt_succ_iff_lt_or_eq.mp lt with lt | rfl
    · exact early j lt e month' day'
    · rw [Date.eq_of_fallsOn (month'.trans month.symm) day' day]
      exact Int.not_le.mp late

/-- Every step before the last one that can be too early is too early. -/
theorem isFirst_monthJump {anchor start : Date} {step : Nat} {pos : 0 < step} :
    IsFirst (MonthStep anchor step) start
      (firstMonthStep? anchor start step pos
        ((start.monthIndex - anchor.monthIndex).toNat / step)) := by
  refine isFirst_firstMonthStep? fun j lt e month _ => Date.lt_of_monthIndex_lt ?_
  have le := Nat.div_mul_le_self (start.monthIndex - anchor.monthIndex).toNat step
  have := Nat.mul_lt_mul_of_pos_right lt pos
  omega

/-! ### Days of the month and of the year -/

/-- The date of one month is the first of a set of dates that fall on its day, when no date of the
set from `start` on lies in an earlier month. -/
theorem isFirst_clamped? {P : Date → Prop} {start : Date} {year : Int} {month day : Nat}
    (pos : 1 ≤ day) (range : 1 ≤ month ∧ month ≤ 12) (later : start.year ≤ year)
    (fall : ∀ e, P e → e.FallsOn day)
    (after : ∀ e, P e → start ≤ e → year * 12 + (month - 1 : Int) ≤ e.monthIndex)
    (mem : ∀ d, d.year = year → d.month = month → d.FallsOn day → P d ∧ start ≤ d) :
    IsFirst P start (Date.clamped? year month day) := by
  cases found : Date.clamped? year month day with
  | some d =>
    obtain ⟨hy, hm, falls⟩ := (Date.clamped?_eq_some_iff pos).mp found
    have index : d.monthIndex = year * 12 + (month - 1 : Int) := by
      unfold Date.monthIndex; rw [hy, hm]
    obtain ⟨hP, le⟩ := mem d hy hm falls
    refine ⟨hP, le, ?_⟩
    intro e he le'
    rcases Int.lt_or_eq_of_le (after e he le') with lt | same
    · exact Int.le_of_lt (Date.lt_of_monthIndex_lt (by omega))
    · rw [Date.eq_of_fallsOn (index.trans same) falls (fall e he)]
      exact Int.le_refl _
  | none =>
    intro e he
    by_contra notBefore
    have beyond := after e he (Int.not_lt.mp notBefore)
    obtain ⟨-, hy⟩ := e.year_range
    obtain ⟨hm, hm'⟩ := e.month_range
    obtain ⟨hs, -⟩ := start.year_range
    unfold Date.monthIndex at beyond
    exact Date.clamped?_ne_none ⟨by omega, by omega⟩ range found

theorem isFirst_nextMonthDay? {start : Date} {day : Nat} (range : 1 ≤ day ∧ day ≤ 31) :
    IsFirst (·.FallsOn day) start (nextMonthDay? start day) := by
  unfold nextMonthDay?
  rw [if_pos range]
  cases found : Date.clamped? start.year start.month day with
  | none => exact absurd found (Date.clamped?_ne_none start.year_range start.month_range)
  | some current =>
    obtain ⟨hy, hm, falls⟩ := (Date.clamped?_eq_some_iff range.1).mp found
    have here : current.monthIndex = start.monthIndex := by unfold Date.monthIndex; rw [hy, hm]
    simp only
    split
    · -- The date of this month is not over.
      rename_i le
      rw [← found]
      refine isFirst_clamped? range.1 start.month_range (Int.le_refl _) (fun _ => id)
        (fun e _ le' => Date.monthIndex_le_of_le le') fun d hy' hm' falls' => ⟨falls', ?_⟩
      have index : d.monthIndex = current.monthIndex := by
        unfold Date.monthIndex; rw [hy, hm, hy', hm']
      rwa [Date.eq_of_fallsOn index falls' falls]
    · -- It is over, so the next month has the first date.
      rename_i passed
      have after (e : Date) (he : e.FallsOn day) (le : start ≤ e) :
          start.monthIndex + 1 ≤ e.monthIndex := by
        have := Date.monthIndex_le_of_le le
        by_contra same
        have eq : e = current := Date.eq_of_fallsOn (by omega) he falls
        exact passed (eq ▸ le)
      have mem (d : Date) (next : d.monthIndex = start.monthIndex + 1) (hd : d.FallsOn day) :
          d.FallsOn day ∧ start ≤ d :=
        ⟨hd, Int.le_of_lt (Date.lt_of_monthIndex_lt (by omega))⟩
      obtain ⟨m1, m12⟩ := start.month_range
      unfold Date.monthIndex at after mem
      split
      · rename_i december
        refine isFirst_clamped? range.1 (by decide) (by omega) (fun _ => id)
          (fun e he le => ?_) fun d hy' hm' => mem d ?_
        · have := after e he le
          unfold Date.monthIndex
          omega
        · rw [hy', hm']; omega
      · refine isFirst_clamped? range.1 (by omega) (Int.le_refl _) (fun _ => id)
          (fun e he le => ?_) fun d hy' hm' => mem d ?_
        · have := after e he le
          unfold Date.monthIndex
          omega
        · rw [hy', hm']; omega

theorem isFirst_nextYearDay? {start : Date} {month day : Nat} (monthRange : 1 ≤ month ∧ month ≤ 12)
    (dayRange : 1 ≤ day ∧ day ≤ 31) :
    IsFirst (fun d => d.month = month ∧ d.FallsOn day) start (nextYearDay? start month day) := by
  unfold nextYearDay?
  rw [if_pos ⟨monthRange, dayRange⟩]
  obtain ⟨s1, s12⟩ := start.month_range
  have notEarlier (e : Date) (le : start ≤ e) : start.year ≤ e.year := by
    have := Date.monthIndex_le_of_le le
    have := e.month_range
    unfold Date.monthIndex at *
    omega
  cases found : Date.clamped? start.year month day with
  | none => exact absurd found (Date.clamped?_ne_none start.year_range monthRange)
  | some current =>
    obtain ⟨hy, hm, falls⟩ := (Date.clamped?_eq_some_iff dayRange.1).mp found
    have unique (e : Date) (hy' : e.year = start.year) (hm' : e.month = month)
        (falls' : e.FallsOn day) : e = current := by
      refine Date.eq_of_fallsOn ?_ falls' falls
      unfold Date.monthIndex; rw [hy, hm, hy', hm']
    simp only
    split
    · -- The date of this year is not over.
      rename_i le
      rw [← found]
      refine isFirst_clamped? dayRange.1 monthRange (Int.le_refl _) (fun _ he => he.2)
        (fun e he le' => ?_) fun d hy' hm' falls' => ⟨⟨hm', falls'⟩, ?_⟩
      · have := notEarlier e le'
        unfold Date.monthIndex
        rw [he.1]
        omega
      · rwa [unique d hy' hm' falls']
    · -- It is over, so the next year has the first date.
      rename_i passed
      refine isFirst_clamped? dayRange.1 monthRange (by omega) (fun _ he => he.2)
        (fun e he le => ?_) fun d hy' hm' falls' => ⟨⟨hm', falls'⟩, ?_⟩
      · have := notEarlier e le
        have : e.year ≠ start.year := fun same => passed (unique e same he.1 he.2 ▸ le)
        unfold Date.monthIndex
        rw [he.1]
        omega
      · refine Int.le_of_lt (Date.lt_of_monthIndex_lt ?_)
        unfold Date.monthIndex
        rw [hy', hm']
        omega

/-! ### Schedules -/

/-- The jump along an interval, for an anchor that is over. -/
theorem isFirst_firstStep? {anchor start : Date} {count : Nat} {pos : 0 < count}
    (unit : IntervalUnit) (late : anchor < start) :
    IsFirst (fun d => ∃ k : Nat, anchor.IsStep unit (k * count) d) start
      (firstStep? anchor start count pos unit) := by
  have seven (k : Nat) : ((k * (count * 7) : Nat) : Int) = 7 * (k * count : Nat) := by
    rw [← Nat.mul_assoc]; omega
  have twelve (k : Nat) : ((k * (count * 12) : Nat) : Int) = 12 * (k * count : Nat) := by
    rw [← Nat.mul_assoc]; omega
  cases unit with
  | day => exact isFirst_firstDayStep? pos late
  | week =>
    apply (isFirst_firstDayStep? (Nat.mul_pos pos (by decide)) late).congr
    intro e _
    simp only [DayStep, Date.IsStep, seven]
  | month => exact isFirst_monthJump
  | year =>
    apply isFirst_monthJump.congr
    intro e _
    simp only [MonthStep, Date.IsStep, twelve]

/-- A step of an interval is not before its anchor. -/
theorem le_of_isStep {anchor d : Date} {unit : IntervalUnit} {n : Nat}
    (h : anchor.IsStep unit n d) : anchor ≤ d := by
  cases unit with
  | day => unfold Date.IsStep at h; rw [Date.le_iff]; omega
  | week => unfold Date.IsStep at h; rw [Date.le_iff]; omega
  | month => exact Date.le_of_monthIndex_add h.1 h.2
  | year => exact Date.le_of_monthIndex_add (n := 12 * n) (by have := h.1; omega) h.2

/-- No steps lead from the anchor to itself. -/
theorem isStep_zero (anchor : Date) (unit : IntervalUnit) : anchor.IsStep unit 0 anchor := by
  cases unit with
  | day => exact (Int.add_zero _).symm
  | week => exact (Int.add_zero _).symm
  | month => exact ⟨(Int.add_zero _).symm, anchor.fallsOn_day⟩
  | year => exact ⟨(Int.add_zero _).symm, anchor.fallsOn_day⟩

/-- The anchor is the first charge of its schedule. -/
theorem anchor_le_of_occurs {s : Schedule} {d : Date} (h : s.Occurs d) : s.anchor ≤ d := by
  unfold Schedule.Occurs at h
  split at h
  · obtain ⟨k, step⟩ := h
    exact le_of_isStep step
  · rcases h with rfl | ⟨lt, -⟩
    · exact Int.le_refl _
    · exact Int.le_of_lt lt
  · rcases h with rfl | ⟨lt, -⟩
    · exact Int.le_refl _
    · exact Int.le_of_lt lt

theorem occurs_anchor (s : Schedule) : s.Occurs s.anchor := by
  unfold Schedule.Occurs
  split
  · exact ⟨0, by rw [Nat.zero_mul]; exact isStep_zero _ _⟩
  · exact .inl rfl
  · exact .inl rfl

/-- **The next charge of a schedule is its first charge from that day on.** -/
theorem isFirst_next? (s : Schedule) (start : Date) : IsFirst s.Occurs start (s.next? start) := by
  by_cases le : start ≤ s.anchor
  · unfold Schedule.next?
    rw [if_pos le]
    exact ⟨occurs_anchor s, le, fun e he _ => anchor_le_of_occurs he⟩
  · have late : s.anchor < start := Int.not_le.mp le
    -- From `start` on, the rules by day need not mention the anchor.
    have past (e : Date) (he : start ≤ e) : e ≠ s.anchor ∧ s.anchor < e := by
      have lt : s.anchor < e := Int.lt_of_lt_of_le late he
      exact ⟨fun eq => Int.lt_irrefl _ (eq ▸ lt), lt⟩
    unfold Schedule.next?
    rw [if_neg le]
    obtain ⟨anchor, recurrence⟩ := s
    cases recurrence with
    | every count unit pos => exact isFirst_firstStep? unit late
    | monthly day range =>
      apply (isFirst_nextMonthDay? range).congr
      intro e he
      simp only [Schedule.Occurs, (past e he).1, (past e he).2, false_or, true_and]
    | yearly month day monthRange dayRange =>
      apply (isFirst_nextYearDay? monthRange dayRange).congr
      intro e he
      simp only [Schedule.Occurs, (past e he).1, (past e he).2, false_or, true_and]

/-! ### Subscriptions -/

namespace Subscription

/-- The columns of a subscription describe a schedule: it recurs, it has a date, and the columns of
its kind of recurrence are there and in range. -/
def HasValidSchedule (s : Subscription) : Prop :=
  s.IsRecurring ∧ s.nextOccurrence.isSome ∧
    match s.recurrenceType with
    | some .interval =>
      (∃ count, s.intervalCount = some count ∧ 1 ≤ count.toNat) ∧ s.intervalUnit.isSome
    | some .monthlyDate => ∃ day, s.monthlyDay = some day ∧ 1 ≤ day.toNat ∧ day.toNat ≤ 31
    | some .yearlyDate =>
      (∃ month, s.yearlyMonth = some month ∧ 1 ≤ month.toNat ∧ month.toNat ≤ 12) ∧
        ∃ day, s.yearlyDay = some day ∧ 1 ≤ day.toNat ∧ day.toNat ≤ 31
    | none => False

/-- The dates on which a subscription charges, from the stored date `a` on: the steps of an interval
counted from `a`, or `a` and every later date that the rule by day falls on. -/
def Charges (s : Subscription) (d : Date) : Prop :=
  s.HasValidSchedule ∧ ∃ a, s.nextOccurrence = some a ∧
    match s.recurrenceType with
    | some .interval => ∃ count unit, s.intervalCount = some count ∧ s.intervalUnit = some unit ∧
        ∃ k : Nat, a.IsStep unit (k * count.toNat) d
    | some .monthlyDate => ∃ day, s.monthlyDay = some day ∧
        (d = a ∨ (a < d ∧ d.FallsOn day.toNat))
    | some .yearlyDate => ∃ month day, s.yearlyMonth = some month ∧ s.yearlyDay = some day ∧
        (d = a ∨ (a < d ∧ d.month = month.toNat ∧ d.FallsOn day.toNat))
    | none => False

theorem schedule?_eq_some_iff {s : Subscription} {schedule : Schedule} :
    s.schedule? = some schedule ↔
      s.IsRecurring ∧ s.nextOccurrence = some schedule.anchor ∧
        s.recurrence? = some schedule.recurrence := by
  obtain ⟨anchor, recurrence⟩ := schedule
  unfold schedule?
  by_cases recurring : s.IsRecurring
  · rw [if_pos recurring]
    cases s.nextOccurrence <;> cases s.recurrence? <;> simp [recurring]
  · rw [if_neg recurring]
    exact iff_of_false (by simp) fun h => recurring h.1

/-- What the columns of each kind of recurrence describe. -/
theorem recurrence?_eq_some_iff {s : Subscription} {r : Recurrence} :
    s.recurrence? = some r ↔
      match s.recurrenceType with
      | some .interval => ∃ count unit, s.intervalCount = some count ∧ s.intervalUnit = some unit ∧
          ∃ pos, r = .every count.toNat unit pos
      | some .monthlyDate => ∃ day, s.monthlyDay = some day ∧ ∃ range, r = .monthly day.toNat range
      | some .yearlyDate => ∃ month day, s.yearlyMonth = some month ∧ s.yearlyDay = some day ∧
          ∃ monthRange dayRange, r = .yearly month.toNat day.toNat monthRange dayRange
      | none => False := by
  unfold recurrence?
  cases s.recurrenceType with
  | none => simp
  | some kind =>
    cases kind with
    | interval =>
      cases s.intervalCount <;> cases s.intervalUnit <;> simp [Recurrence.every?, eq_comm]
    | monthlyDate => cases s.monthlyDay <;> simp [Recurrence.monthly?, eq_comm]
    | yearlyDate =>
      cases s.yearlyMonth <;> cases s.yearlyDay <;> simp [Recurrence.yearly?, eq_comm]
      exact ⟨fun ⟨h, eq⟩ => ⟨h.1, h.2, eq⟩, fun ⟨hm, hd, eq⟩ => ⟨⟨hm, hd⟩, eq⟩⟩

/-- The columns describe a schedule exactly when there is one. -/
theorem isSome_schedule?_iff (s : Subscription) : s.schedule?.isSome ↔ s.HasValidSchedule := by
  have some_iff : s.schedule?.isSome ↔ s.IsRecurring ∧ s.nextOccurrence.isSome ∧
      s.recurrence?.isSome := by
    simp only [Option.isSome_iff_exists]
    constructor
    · rintro ⟨schedule, h⟩
      obtain ⟨recurring, date, recurrence⟩ := schedule?_eq_some_iff.mp h
      exact ⟨recurring, ⟨_, date⟩, ⟨_, recurrence⟩⟩
    · rintro ⟨recurring, ⟨anchor, date⟩, ⟨r, recurrence⟩⟩
      exact ⟨⟨anchor, r⟩, schedule?_eq_some_iff.mpr ⟨recurring, date, recurrence⟩⟩
  rw [some_iff]
  unfold HasValidSchedule
  refine and_congr_right fun _ => and_congr_right fun _ => ?_
  simp only [Option.isSome_iff_exists, recurrence?_eq_some_iff]
  cases s.recurrenceType with
  | none => simp
  | some kind => cases kind <;> simp <;> grind

/-- The dates of the schedule are the dates that the columns describe. -/
theorem charges_iff_occurs {s : Subscription} {schedule : Schedule}
    (h : s.schedule? = some schedule) (d : Date) : s.Charges d ↔ schedule.Occurs d := by
  have valid : s.HasValidSchedule := (isSome_schedule?_iff s).mp (by rw [h]; rfl)
  obtain ⟨anchor, r⟩ := schedule
  obtain ⟨-, date, recurrence⟩ := schedule?_eq_some_iff.mp h
  rw [recurrence?_eq_some_iff] at recurrence
  unfold Charges Schedule.Occurs
  simp only [valid, true_and, date, Option.some.injEq, exists_eq_left']
  cases hk : s.recurrenceType with
  | none => rw [hk] at recurrence; exact recurrence.elim
  | some kind =>
    rw [hk] at recurrence
    cases kind with
    | interval =>
      obtain ⟨count, unit, hc, hu, pos, rfl⟩ := recurrence
      simp [hc, hu]
    | monthlyDate =>
      obtain ⟨day, hd, range, rfl⟩ := recurrence
      simp [hd]
    | yearlyDate =>
      obtain ⟨month, day, hm, hd, monthRange, dayRange, rfl⟩ := recurrence
      simp [hm, hd]

/-- The next charge of a subscription is the first of the dates that its columns describe. -/
theorem isFirst_nextOnOrAfter? (s : Subscription) (start : Date) :
    IsFirst s.Charges start (s.nextOnOrAfter? start) := by
  unfold nextOnOrAfter?
  cases h : s.schedule? with
  | some schedule =>
    exact (isFirst_next? schedule start).congr fun e _ => (charges_iff_occurs h e).symm
  | none =>
    intro e he
    have := (isSome_schedule?_iff s).mpr he.1
    rw [h] at this
    cases this

/-- **The next charge is the least date of the set that the columns of a subscription describe.** It
is the least date of the set that is not before `start`; there is none exactly when every date of the
set is before `start`; and there is none without a complete recurrence, as for a single charge. -/
theorem nextOnOrAfter?_isLeast (s : Subscription) (start : Date) :
    (∀ d, s.nextOnOrAfter? start = some d ↔ IsLeast {e | s.Charges e ∧ start ≤ e} d) ∧
      (s.nextOnOrAfter? start = none ↔ ∀ e, s.Charges e → e < start) ∧
      (s.HasValidSchedule ∨ s.nextOnOrAfter? start = none) := by
  have first := isFirst_nextOnOrAfter? s start
  refine ⟨fun d => first.eq_some_iff, first.eq_none_iff, ?_⟩
  by_cases valid : s.HasValidSchedule
  · exact .inl valid
  · exact .inr (first.eq_none_iff.mpr fun e he => absurd he.1 valid)

end Subscription

end Reminders
