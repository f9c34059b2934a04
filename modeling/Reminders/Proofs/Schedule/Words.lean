import Reminders.Proofs.Schedule.Counting
import Reminders.Proofs.Schedule.Later
import Reminders.Schedule.Words

/-!
The interval jump does not leave its words.

The calendar is so short that every number of the jump fits, however long the steps are: a rounded
number of days is less than the gap and one step, and the search over months begins with a date in a
month that is not after the one looked for. That date exists, every earlier one is too early, and the
one after it, if there is one, lies in a later month; so the search ends with its second candidate.

* `Words.dayJump_eq`, `Words.monthJump_eq`: each jump comes to its end, with the date of the jump over
  integers of any size.
* `Words.firstTry_eq`, `Words.exists_shiftMonths?`: where the search over months begins.
* `Words.interval_jump_is_safe`
-/

namespace Reminders

namespace Date

/-- A number of months beyond 32 bits leads out of the calendar, as it does without words. -/
theorem shiftMonths?_natCast (d : Date) (months : Nat) :
    d.shiftMonths? months = d.addMonths? months := by
  unfold shiftMonths?
  rw [Int.natAbs_natCast]
  split
  · rfl
  · rename_i large
    symm
    rw [Option.eq_none_iff_forall_ne_some]
    intro e found
    have index := monthIndex_addMonths? found
    have low := d.year_range
    have high := e.year_range
    have month := d.month_range
    have month' := e.month_range
    unfold monthIndex minYear maxYear Width.maxWord32 at *
    omega

/-- The months of two dates differ by fewer than the calendar has. -/
theorem monthIndex_sub_lt (start stop : Date) :
    stop.monthIndex - start.monthIndex < 6291432 := by
  have low := start.year_range
  have high := stop.year_range
  have month := start.month_range
  have month' := stop.month_range
  unfold monthIndex minYear maxYear at *
  omega

end Date

theorem IntervalUnit.scale_range (unit : IntervalUnit) : 0 < unit.scale ∧ unit.scale ≤ 12 := by
  cases unit <;> decide

namespace Words

variable {anchor start : Date} {step : Nat}

/-! ### Operations -/

theorem ok_bind {α β : Type} (a : α) (f : α → Words β) : ((.ok a : Words α) >>= f) = f a := rfl

theorem word_eq {n : Int} (low : -2 ^ 63 ≤ n) (high : n < 2 ^ 63) : word n = .ok n := by
  refine if_pos ?_
  unfold Width.IsInt64 Width.minInt64 Width.maxInt64
  omega

/-- The quotient of a number that is not negative. -/
theorem div_eq {a : Int} {b : Nat} (pos : 0 < b) (nonneg : 0 ≤ a) (high : a < 2 ^ 63) :
    div a b = .ok (a / b) := by
  have notZero : (b : Int) ≠ 0 := by omega
  have := Int.ediv_nonneg nonneg (Int.natCast_nonneg b)
  have := Int.ediv_le_self (b : Int) nonneg
  unfold div
  rw [if_neg notZero, Int.tdiv_eq_ediv_of_nonneg nonneg]
  exact word_eq (by omega) (by omega)

theorem span_eq {days : Int} (low : -106751991167 ≤ days) (high : days ≤ 106751991167) :
    span days = .ok days := by
  refine if_pos ?_
  unfold millisecondsPerDay Width.maxInt64
  omega

/-- A step has fewer than 36 bits. -/
theorem step_le (count : UInt32) (unit : IntervalUnit) :
    count.toNat * unit.scale ≤ 4294967295 * 12 := by
  have word := count.toNat_lt
  exact Nat.mul_le_mul (by omega) unit.scale_range.2

/-! ### Days -/

/-- **The jump over days** stays in its words. -/
theorem dayJump_eq (late : anchor < start) (pos : 0 < step) (small : step ≤ 4294967295 * 12) :
    dayJump anchor start step = .ok (firstDayStep? anchor start step) := by
  rw [Date.lt_iff] at late
  have near := Date.dayNumber_sub_lt anchor start
  have gap : 0 < start.daysSince anchor ∧ start.daysSince anchor < 2 ^ 32 := by
    unfold Date.daysSince
    omega
  obtain ⟨n, quotient, covers, -⟩ := exists_least_steps pos gap.1
  rw [Int.natCast_mul] at covers
  -- The rounded gap is less than the gap and one step.
  have product : (n * step : Int) ≤ start.daysSince anchor + step - 1 := by
    rw [← quotient]
    exact Int.ediv_mul_le _ (by omega)
  have sum : add (start.daysSince anchor) step = .ok (start.daysSince anchor + step) :=
    word_eq (by omega) (by omega)
  have less : sub (start.daysSince anchor + step) 1 = .ok (start.daysSince anchor + step - 1) :=
    word_eq (by omega) (by omega)
  have steps : div (start.daysSince anchor + step - 1) step = .ok (n : Int) := by
    rw [div_eq pos (by omega) (by omega), quotient]
  have days : mul n step = .ok (n * step : Int) := word_eq (by omega) (by omega)
  have gapSpan : span (start.daysSince anchor) = .ok (start.daysSince anchor) :=
    span_eq (by omega) (by omega)
  have jumpSpan : span (n * step) = .ok (n * step : Int) := span_eq (by omega) (by omega)
  unfold dayJump firstDayStep?
  rw [gapSpan, ok_bind, sum, ok_bind, less, ok_bind, steps, ok_bind, days, ok_bind, jumpSpan, ok_bind,
    ← quotient]
  rfl

/-! ### Months -/

theorem monthsBetween_eq (anchor start : Date) :
    monthsBetween anchor start = .ok (start.monthIndex - anchor.monthIndex) := by
  have low := anchor.year_range
  have high := anchor.month_range
  have low' := start.year_range
  have high' := start.month_range
  unfold minYear maxYear at low low'
  have years : sub start.year anchor.year = .ok (start.year - anchor.year) :=
    word_eq (by omega) (by omega)
  have months : mul (start.year - anchor.year) 12 = .ok ((start.year - anchor.year) * 12) :=
    word_eq (by omega) (by omega)
  have sum : add ((start.year - anchor.year) * 12) start.month =
      .ok ((start.year - anchor.year) * 12 + start.month) :=
    word_eq (by omega) (by omega)
  unfold monthsBetween
  rw [years, ok_bind, months, ok_bind, sum, ok_bind]
  refine (word_eq (by omega) (by omega)).trans (congrArg Except.ok ?_)
  unfold Date.monthIndex
  omega

/-- **Where the search over months begins.** -/
theorem firstTry_eq (le : anchor ≤ start) (pos : 0 < step) :
    firstTry anchor start step =
      .ok ((start.monthIndex - anchor.monthIndex).toNat / step : Nat) := by
  have nonneg := Date.monthIndex_le_of_le le
  have few := Date.monthIndex_sub_lt anchor start
  unfold firstTry
  rw [monthsBetween_eq]
  refine (div_eq pos (by omega) (by omega)).trans (congrArg Except.ok ?_)
  rw [Int.natCast_ediv, Int.toNat_of_nonneg (by omega)]

/-- **The first candidates exist**, up to the one with which the search begins, and those before it
are too early. -/
theorem exists_shiftMonths? (le : anchor ≤ start) (pos : 0 < step) {j : Nat}
    (within : j ≤ (start.monthIndex - anchor.monthIndex).toNat / step) :
    ∃ d, anchor.shiftMonths? (j * step : Nat) = some d ∧
      (j < (start.monthIndex - anchor.monthIndex).toNat / step → d < start) := by
  have nonneg := Date.monthIndex_le_of_le le
  have last : start.monthIndex ≤ Date.last.monthIndex := by
    have room : Date.last.monthIndex = 262142 * 12 + 11 := rfl
    have year := start.year_range
    have month := start.month_range
    unfold Date.monthIndex maxYear at *
    omega
  have covered : j * step ≤ (start.monthIndex - anchor.monthIndex).toNat :=
    (Nat.le_div_iff_mul_le pos).mp within
  obtain ⟨d, index, falls⟩ :=
    Date.exists_addMonths (a := anchor) (n := j * step) (by omega)
  refine ⟨d, ?_, fun early => Date.lt_of_monthIndex_lt ?_⟩
  · rw [Date.shiftMonths?_natCast]
    exact Date.addMonths?_eq_some_iff.mpr ⟨index, falls⟩
  · have := (Nat.le_div_iff_mul_le pos).mp (Nat.succ_le_of_lt early)
    rw [Nat.succ_mul] at this
    omega

/-- What comes of one candidate. -/
theorem tryMonths_succ (candidates : Nat) {k : Nat} (fits : k * step < 2 ^ 63) (few : k < 2 ^ 62) :
    tryMonths anchor start step (candidates + 1) k =
      match anchor.addMonths? (k * step) with
      | none => .ok none
      | some d =>
        if start ≤ d then .ok (some d) else tryMonths anchor start step candidates (k + 1 : Nat) := by
  have product : mul k step = .ok ((k * step : Nat) : Int) := by
    unfold mul
    rw [← Int.natCast_mul]
    exact word_eq (by omega) (by omega)
  have next : add k 1 = .ok ((k + 1 : Nat) : Int) := word_eq (by omega) (by omega)
  rw [tryMonths, product, ok_bind, Date.shiftMonths?_natCast, next]
  cases anchor.addMonths? (k * step) <;> rfl

/-- A search that begins beyond the month of `start` ends with its first candidate. -/
theorem tryMonths_of_later {k : Nat} (pos : 0 < step)
    (later : start.monthIndex < anchor.monthIndex + (k * step : Nat)) (fits : k * step < 2 ^ 63)
    (few : k < 2 ^ 62) :
    tryMonths anchor start step 1 k = .ok (firstMonthStep? anchor start step pos k) := by
  rw [tryMonths_succ 0 fits few, firstMonthStep?]
  cases found : anchor.addMonths? (k * step) with
  | none => rfl
  | some d =>
    have le : start ≤ d := by
      refine Int.le_of_lt (Date.lt_of_monthIndex_lt ?_)
      rw [Date.monthIndex_addMonths? found]
      exact later
    simp only [if_pos le]

/-- **The search over months** stays in its words and ends with its second candidate. -/
theorem monthJump_eq (late : anchor < start) (pos : 0 < step) (small : step ≤ 4294967295 * 12) :
    monthJump 2 anchor start step = .ok (firstMonthStep? anchor start step pos
      ((start.monthIndex - anchor.monthIndex).toNat / step)) := by
  have few := Date.monthIndex_sub_lt anchor start
  have le : anchor ≤ start := Int.le_of_lt late
  generalize quotient : (start.monthIndex - anchor.monthIndex).toNat / step = k
  have least := Nat.div_mul_le_self (start.monthIndex - anchor.monthIndex).toNat step
  have most := Nat.lt_div_mul_add pos (a := (start.monthIndex - anchor.monthIndex).toNat)
  have steps := Nat.div_le_self (start.monthIndex - anchor.monthIndex).toNat step
  rw [quotient] at least most steps
  unfold monthJump
  rw [firstTry_eq le pos, ok_bind, quotient, tryMonths_succ 1 (by omega) (by omega),
    firstMonthStep?]
  cases found : anchor.addMonths? (k * step) with
  | none => rfl
  | some d =>
    have second : tryMonths anchor start step 1 (k + 1 : Nat) =
        .ok (firstMonthStep? anchor start step pos (k + 1)) := by
      refine tryMonths_of_later pos ?_ ?_ (by omega) <;> rw [Nat.succ_mul] <;> omega
    simp only [second]
    split <;> rfl

/-! ### The jump -/

theorem mul_scale_eq (count : UInt32) (unit : IntervalUnit) :
    mul count.toNat unit.scale = .ok ((count.toNat * unit.scale : Nat) : Int) := by
  have small := step_le count unit
  unfold mul
  rw [← Int.natCast_mul]
  exact word_eq (by omega) (by omega)

/-- The jump from an anchor before `start` comes to its end, with the date of the jump over integers
of any size. -/
theorem jump_eq {count : UInt32} (pos : 0 < count.toNat) (late : anchor < start)
    (unit : IntervalUnit) :
    jump 2 anchor start count unit = .ok (firstStep? anchor start count.toNat pos unit) := by
  have given : count ≠ 0 := fun zero => by simp [zero] at pos
  have notReached : ¬start ≤ anchor := Int.not_le.mpr late
  have step := Nat.mul_pos pos unit.scale_range.1
  have days := dayJump_eq late step (step_le count unit)
  have months := monthJump_eq late step (step_le count unit)
  unfold jump
  rw [if_neg given, if_neg notReached, mul_scale_eq, ok_bind]
  cases unit with
  | day => simpa only [IntervalUnit.scale, Nat.mul_one, firstStep?] using days
  | week => exact days
  | month => simpa only [IntervalUnit.scale, Nat.mul_one, firstStep?] using months
  | year => exact months

/-- **The interval jump is safe.** For all dates of the calendar, every count of 32 bits and every unit
it comes to its end in words, and looks at no more than two candidates; what it finds is the next
charge of the schedule over integers of any size. The search over months and years begins with a
candidate that exists, and all candidates before that one exist as well and are too early. -/
theorem interval_jump_is_safe (anchor start : Date) (count : UInt32) (unit : IntervalUnit) :
    jump 2 anchor start count unit =
        .ok ((Recurrence.every? count.toNat unit).bind fun r => (Schedule.mk anchor r).next? start) ∧
      (count ≠ 0 → anchor < start → unit = .month ∨ unit = .year →
        ∃ step k : Nat, mul count.toNat unit.scale = .ok (step : Int) ∧
          firstTry anchor start step = .ok (k : Int) ∧
          (∃ d, anchor.shiftMonths? (k * step : Nat) = some d) ∧
          ∀ j < k, ∃ d, anchor.shiftMonths? (j * step : Nat) = some d ∧ d < start) := by
  have positive (given : count ≠ 0) : 0 < count.toNat :=
    Nat.pos_of_ne_zero fun zero => given (UInt32.toNat_inj.mp zero)
  constructor
  · by_cases given : count = 0
    · rw [given]
      rfl
    by_cases le : start ≤ anchor
    · unfold jump Recurrence.every? Schedule.next?
      rw [if_neg given, if_pos le, dif_pos (positive given), Option.bind_some, if_pos le]
      rfl
    · rw [jump_eq (positive given) (Int.not_le.mp le)]
      unfold Recurrence.every? Schedule.next?
      rw [dif_pos (positive given), Option.bind_some, if_neg le]
  · intro given late _
    have le : anchor ≤ start := Int.le_of_lt late
    have pos := Nat.mul_pos (positive given) unit.scale_range.1
    refine ⟨_, _, mul_scale_eq count unit, firstTry_eq le pos, ?_, fun j early => ?_⟩
    · obtain ⟨d, found, -⟩ := exists_shiftMonths? le pos (Nat.le_refl _)
      exact ⟨d, found⟩
    · obtain ⟨d, found, before⟩ := exists_shiftMonths? le pos (Nat.le_of_lt early)
      exact ⟨d, found, before early⟩

end Words

namespace Sample

/-- The middle of January. -/
def midJanuary : Date := (Date.ofYmd? 2026 1 15).getD .first

/-- A day in March after its middle. -/
def lateMarch : Date := (Date.ofYmd? 2026 3 20).getD .first

end Sample

open Sample Words in
/-- The longest steps of weeks, through the whole calendar, and months whose first candidate is too
early. -/
theorem Words.interval_jump_is_safe_sample :
    jump 2 .first .last 4294967295 .week = .ok none ∧
      jump 1 midJanuary lateMarch 1 .month = .error .unsettled ∧
      jump 2 midJanuary lateMarch 1 .month = .ok (Date.ofYmd? 2026 4 15) ∧
      ∃ step k : Nat, mul 1 1 = .ok (step : Int) ∧
        firstTry midJanuary lateMarch step = .ok (k : Int) ∧
        (∃ d, midJanuary.shiftMonths? (k * step : Nat) = some d) ∧
        ∀ j < k, ∃ d, midJanuary.shiftMonths? (j * step : Nat) = some d ∧ d < lateMarch := by
  have weeks := (interval_jump_is_safe .first .last 4294967295 .week).1
  obtain ⟨months, search⟩ := interval_jump_is_safe midJanuary lateMarch 1 .month
  refine ⟨weeks.trans ?_, ?_, months.trans ?_, search (by decide) (by decide) (.inl rfl)⟩
  · decide +kernel
  · decide +kernel
  · decide +kernel

end Reminders
