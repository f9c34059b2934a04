import Reminders.Calendar.InstantText
import Reminders.Proofs.Calendar.WrittenDate

/-!
Instants that were written by the program.

An instant is found again from its text, in any year and in a leap second too: each number is read
up to the sign behind it, a fraction of three, six or nine digits stands for its nanoseconds, and
second 60 is the leap second of the one before.

* `DateText.fraction_fractionText`
* `DateText.timeOfDay_append`
* `Instant.parse_toText`: an instant is found again from its text.
-/

namespace Reminders

namespace DateText

open Numeral

variable {c : Char} {rest : List Char}

/-! ### Fractions -/

/-- A number that ends before its limit. -/
theorem number_stop {limit width n : Nat} (pos : 0 < width) (within : width ≤ limit)
    (short : width ≤ 18) (small : n < 10 ^ width) (stop : isDigit c = false) :
    number (some limit) (padded width n ++ c :: rest) = .ok (n, c :: rest) := by
  refine number_padded _ (Nat.lt_of_lt_of_le small (Nat.pow_le_pow_right (by decide) short)) ?_
  have length := length_padded pos small
  have digits : ∀ d ∈ padded width n, isDigit d = true := fun _ => isDigit_of_mem_padded
  have none : ((c :: rest).take (limit - width)).takeWhile isDigit = [] := by
    cases limit - width with
    | zero => rfl
    | succ k => rw [List.take_succ_cons, List.takeWhile_cons_of_neg (by simp [stop])]
  simp only
  rw [List.take_append, length, List.take_of_length_le (by omega),
    List.takeWhile_append_of_pos digits, none, List.append_nil]

theorem fraction_padded {width n : Nat} (pos : 0 < width) (within : width ≤ 9)
    (small : n < 10 ^ width) (stop : isDigit c = false) :
    fraction ('.' :: padded width n ++ c :: rest) = .ok (n * 10 ^ (9 - width), c :: rest) := by
  have read : number (some 9) (padded width n ++ c :: rest) = .ok (n, c :: rest) :=
    number_stop pos within (by omega) small stop
  have taken : (padded width n ++ c :: rest).length - (c :: rest).length = width := by
    rw [List.length_append, Nat.add_sub_cancel, length_padded pos small]
  have last : (c :: rest).dropWhile isDigit = c :: rest :=
    List.dropWhile_cons_of_neg (by simp [stop])
  simp only [fraction, List.cons_append, read, bind, Except.bind, taken, last]
  rfl

/-- The nanoseconds of a written fraction, in front of other text. -/
theorem fraction_fractionText {nano : Nat} (small : nano < 1000000000) (stop : isDigit c = false)
    (noPoint : c ≠ '.') :
    fraction (Instant.fractionText nano ++ c :: rest) = .ok (nano, c :: rest) := by
  unfold Instant.fractionText
  split
  · rename_i zero
    rw [List.nil_append, zero, fraction]
    rintro _ ⟨⟩
    exact noPoint rfl
  -- Three, six or nine digits.
  split
  rotate_left
  split
  all_goals
    rw [fraction_padded (by decide) (by decide) (by omega) stop]
    congr 2
    omega

/-! ### Times of day -/

/-- The time of day that the numbers of an instant stand for. -/
theorem ofClock_eq (t : Instant) :
    TimeOfDay.ofClock (t.second / 3600) (t.second / 60 % 60)
      (t.second % 60 + t.nano / 1000000000) (t.nano % 1000000000) = ⟨t.second, t.nano⟩ := by
  have bound := t.nano_lt
  have leap := t.leap
  unfold TimeOfDay.ofClock
  split
  · congr 1 <;> omega
  · congr 1 <;> omega

/-- A written time of day, in front of other text. -/
theorem timeOfDay_append {hour minute second nano : Nat} (rest : List Char) (hours : hour ≤ 23)
    (minutes : minute ≤ 59) (seconds : second ≤ 60) (small : nano < 1000000000)
    (stop : isDigit c = false) (noPoint : c ≠ '.') :
    timeOfDay (padded 2 hour ++ ':' :: (padded 2 minute ++ ':' :: (padded 2 second ++
      (Instant.fractionText nano ++ c :: rest)))) =
        .ok (.ofClock hour minute second nano, c :: rest) := by
  have colon (rest : List Char) : skipBlanks (':' :: rest) = .ok ((), ':' :: rest) :=
    skipBlanks_cons rest (by decide)
  have first (rest : List Char) := bounded_padded 23 rest ⟨Nat.zero_le _, hours⟩ (by decide)
  have second (rest : List Char) := bounded_padded 59 rest ⟨Nat.zero_le _, minutes⟩ (by decide)
  have third (rest : List Char) := bounded_padded 60 rest ⟨Nat.zero_le _, seconds⟩ (by decide)
  simp only [timeOfDay, bind, StateT.bind, first, Except.bind, colon, literal, if_true, second,
    third, fraction_fractionText small stop noPoint]
  rfl

end DateText

namespace Instant

open DateText

/-- What is read of the text of an instant. -/
theorem stamp_stampText (t : Instant) : stamp (t.stampText ++ ['Z']) =
    .ok (⟨t.date.year, t.date.month, t.date.day, ⟨t.second, t.nano⟩, 0⟩, []) := by
  have day := t.second_lt
  have nano := t.nano_lt
  have leap := t.leap
  unfold secondsPerDay at day
  have clock := timeOfDay_append (c := 'Z') [] (show t.second / 3600 ≤ 23 by omega)
    (show t.second / 60 % 60 ≤ 59 by omega)
    (show t.second % 60 + t.nano / 1000000000 ≤ 60 by omega)
    (show t.nano % 1000000000 < 1000000000 by omega) (by decide) (by decide)
  rw [ofClock_eq] at clock
  have mark (rest : List Char) : dateTimeMark ('T' :: rest) = .ok ((), rest) := rfl
  simp only [stampText, List.append_assoc, List.cons_append, stamp, bind, StateT.bind,
    yearMonthDay_append, Except.bind, mark, clock]
  rfl

/-- A clock that shows UTC shows an instant as it is. -/
theorem ofLocal?_self (t : Instant) : ofLocal? t.date t.second t.nano 0 t.nano_lt t.leap = some t := by
  have day := t.second_lt
  have same : (t.second : Int) - 0 * 60 = t.second := by omega
  have none : (t.second : Int) / secondsPerDay = 0 := Int.ediv_eq_zero_of_lt (by omega) (by omega)
  have second : ((t.second : Int) % secondsPerDay).toNat = t.second := by
    rw [Int.emod_eq_of_lt (by omega) (by omega), Int.toNat_natCast]
  refine Option.map_eq_some_iff.mpr ⟨t.date, ?_, ?_⟩
  · rw [same, none, Date.addDays?, Int.add_zero, Date.ofDayNumber?_dayNumber]
  · refine Instant.ext rfl ?_ rfl
    change (((t.second : Int) - 0 * 60) % secondsPerDay).toNat = t.second
    rw [same, second]

/-- **An instant is found again from its text.** -/
@[simp] theorem parse_toText (t : Instant) : parse t.toText = .ok t := by
  have read : readAll stamp t.toText =
      .ok ⟨t.date.year, t.date.month, t.date.day, ⟨t.second, t.nano⟩, 0⟩ := by
    simp only [readAll, toText, String.toList_ofList, StateT.run', bind, StateT.bind,
      stamp_stampText, Except.bind]
    rfl
  have zone : ¬((0 : Int) ≤ -1440 ∨ 1440 ≤ (0 : Int)) := by decide
  unfold parse
  rw [read]
  simp only [bind, Except.bind, Stamp.instant, Date.ofYmd?_self, if_neg zone,
    dif_pos (And.intro t.nano_lt t.leap), ofLocal?_self]

end Instant

end Reminders
