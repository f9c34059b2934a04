import Mathlib.Algebra.Group.Nat.Defs
import Mathlib.Data.List.TakeWhile
import Reminders.Calendar.Months
import Reminders.Proofs.Calendar.DateText
import Reminders.Proofs.Lists

/-!
Dates that were written by the program.

What is read from a written date is that date. Written dates are compared as texts where overdue
subscriptions are looked for; a text order is the order of the dates as long as the later year has
four digits and no sign.

* `Date.parse_toText`: a date is found again from its text.
* `Date.toText_lt_of_lt`: an earlier date has a smaller text than a date of the years 0 to 9999.
* `Date.toText_lt_iff`: texts of these years are in the order of their dates.
-/

namespace Reminders

namespace Numeral

/-! ### The length of a numeral -/

theorem length_digits_le {width n : Nat} (small : n < 10 ^ (width + 1)) :
    (digits n).length ≤ width + 1 := by
  induction width generalizing n with
  | zero =>
    unfold digits
    rw [if_pos (by omega)]
    exact Nat.le_refl _
  | succ width ih =>
    unfold digits
    split
    · exact Nat.succ_le_succ (Nat.zero_le _)
    · have shorter := ih (n := n / 10) (by rw [Nat.pow_succ] at small; omega)
      rw [List.length_append]
      exact Nat.succ_le_succ shorter

/-- A number that fits into the width is written with exactly that many digits. -/
theorem length_padded {width n : Nat} (pos : 0 < width) (small : n < 10 ^ width) :
    (padded width n).length = width := by
  obtain ⟨k, rfl⟩ : ∃ k, width = k + 1 := ⟨width - 1, by omega⟩
  have := length_digits_le small
  rw [padded, List.length_append, List.length_replicate]
  omega

/-! ### The order of numerals -/

theorem digitValue_lt {c : Char} (digit : isDigit c = true) : digitValue c < 10 := by
  obtain ⟨-, high⟩ := Bool.and_eq_true_iff.mp digit
  have : c.toNat ≤ 57 := of_decide_eq_true high
  unfold digitValue
  omega

theorem lt_of_digitValue_lt {c d : Char} (less : digitValue c < digitValue d) : c < d := by
  have : c.toNat < d.toNat := by unfold digitValue at less; omega
  exact this

theorem eq_of_digitValue_eq {c d : Char} (hc : isDigit c = true) (hd : isDigit d = true)
    (same : digitValue c = digitValue d) : c = d := by
  have hc : 48 ≤ c.toNat := of_decide_eq_true (Bool.and_eq_true_iff.mp hc).1
  have hd : 48 ≤ d.toNat := of_decide_eq_true (Bool.and_eq_true_iff.mp hd).1
  unfold digitValue at same
  exact Char.toNat_inj.mp (by omega)

/-- Digits as long as others that denote less come first, unless what was read before them does. -/
theorem lt_of_foldl_lt {cs ds : List Char} (length : cs.length = ds.length)
    (hcs : ∀ c ∈ cs, isDigit c = true) (hds : ∀ d ∈ ds, isDigit d = true) {m n : Nat}
    (less : cs.foldl (fun n c => n * 10 + digitValue c) m <
      ds.foldl (fun n c => n * 10 + digitValue c) n) : m < n ∨ (m = n ∧ cs < ds) := by
  induction cs generalizing ds m n with
  | nil =>
    obtain rfl := List.eq_nil_of_length_eq_zero length.symm
    exact .inl less
  | cons c cs ih =>
    obtain _ | ⟨d, ds⟩ := ds
    · cases length
    obtain ⟨hc, hcs⟩ := List.forall_mem_cons.mp hcs
    obtain ⟨hd, hds⟩ := List.forall_mem_cons.mp hds
    have c9 := digitValue_lt hc
    have d9 := digitValue_lt hd
    rw [List.cons_lt_cons_iff]
    have step := ih (Nat.succ.inj length) hcs hds less
    simp only at step
    rcases step with head | ⟨head, tail⟩
    · rcases Nat.lt_or_ge m n with lt | ge
      · exact .inl lt
      · exact .inr ⟨by omega, .inl (lt_of_digitValue_lt (by omega))⟩
    · rcases Nat.lt_or_ge m n with lt | ge
      · exact .inl lt
      · exact .inr ⟨by omega, .inr ⟨eq_of_digitValue_eq hc hd (by omega), tail⟩⟩

/-- Of two numbers that fit into a width the smaller one has the smaller numeral. -/
theorem padded_lt_padded {width m n : Nat} (pos : 0 < width) (less : m < n)
    (small : n < 10 ^ width) : padded width m < padded width n := by
  have length := (length_padded pos (Nat.lt_trans less small)).trans (length_padded pos small).symm
  have values : value (padded width m) < value (padded width n) := by
    rwa [value_padded, value_padded]
  rcases lt_of_foldl_lt length (fun _ => isDigit_of_mem_padded) (fun _ => isDigit_of_mem_padded)
    values with absurd | ⟨-, lt⟩
  · exact (Nat.lt_irrefl 0 absurd).elim
  · exact lt

end Numeral

/-! ### Reading what was written -/

namespace DateText

open Numeral

theorem isBlank_eq_false_of_isDigit {c : Char} (digit : isDigit c = true) : isBlank c = false := by
  obtain ⟨low, high⟩ := Bool.and_eq_true_iff.mp digit
  have low : 48 ≤ c.val.toNat := of_decide_eq_true low
  have high : c.val.toNat ≤ 57 := of_decide_eq_true high
  simp only [isBlank, Bool.or_eq_false_iff, Bool.and_eq_false_iff, decide_eq_false_iff_not,
    UInt32.le_iff_toNat_le, ← UInt32.toNat_inj, UInt32.reduceToNat]
  omega

/-- There is nothing to skip before a character that is not blank. -/
theorem skipBlanks_cons {c : Char} (rest : List Char) (notBlank : isBlank c = false) :
    skipBlanks (c :: rest) = .ok ((), c :: rest) := by
  change Except.ok ((), (c :: rest).dropWhile isBlank) = _
  rw [List.dropWhile_cons_of_neg (by rw [notBlank]; exact Bool.false_ne_true)]

theorem skipBlanks_padded (width n : Nat) (rest : List Char) :
    skipBlanks (padded width n ++ rest) = .ok ((), padded width n ++ rest) := by
  obtain ⟨c, cs, written, digit⟩ := exists_padded_eq_cons width n
  rw [written]
  exact skipBlanks_cons _ (isBlank_eq_false_of_isDigit digit)

/-- A number is read when its digits are all that the window has at its front. -/
theorem number_padded {limit : Option Nat} {width n : Nat} (rest : List Char) (small : n < 10 ^ 18)
    (window : (match limit with
      | some w => (padded width n ++ rest).take w
      | none => padded width n ++ rest).takeWhile isDigit = padded width n) :
    number limit (padded width n ++ rest) = .ok (n, rest) := by
  obtain ⟨c, cs, written, -⟩ := exists_padded_eq_cons width n
  have some : padded width n ≠ [] := by rw [written]; exact List.cons_ne_nil c cs
  have fits : ¬Width.maxInt64 < (value (padded width n) : Int) := by
    rw [value_padded]
    unfold Width.maxInt64
    omega
  have nonempty : padded width n ++ rest ≠ [] := List.append_ne_nil_of_left_ne_nil some rest
  unfold number
  cases limit with
  | none =>
    simp only at window ⊢
    rw [window, if_neg nonempty, if_neg some, if_neg fits, value_padded, List.drop_left]
  | some limit =>
    simp only at window ⊢
    rw [window, if_neg nonempty, if_neg some, if_neg fits, value_padded, List.drop_left]

/-- A number with as many digits as may be taken. -/
theorem number_width {width n : Nat} (rest : List Char) (pos : 0 < width) (short : width ≤ 18)
    (small : n < 10 ^ width) :
    number (some width) (padded width n ++ rest) = .ok (n, rest) := by
  refine number_padded rest (Nat.lt_of_lt_of_le small (Nat.pow_le_pow_right (by decide) short)) ?_
  simp only
  rw [List.take_left' (length_padded pos small)]
  exact List.takeWhile_eq_self_iff.mpr fun c => isDigit_of_mem_padded

/-- A number before a dash. -/
theorem number_dash (width : Nat) {n : Nat} (rest : List Char) (small : n < 10 ^ 18) :
    number none (padded width n ++ '-' :: rest) = .ok (n, '-' :: rest) :=
  number_padded _ small (takeWhile_isDigit_append rest fun _ => isDigit_of_mem_padded)

/-- A number of two digits between its bounds. -/
theorem bounded_padded {low n : Nat} (high : Nat) (rest : List Char) (range : low ≤ n ∧ n ≤ high)
    (small : high < 100) : bounded 2 low high (padded 2 n ++ rest) = .ok (n, rest) := by
  have read := number_width rest (Nat.succ_pos 1) (by decide) (show n < 10 ^ 2 by omega)
  simp only [bounded, bind, StateT.bind, skipBlanks_padded, Except.bind, read, if_pos range]
  rfl

theorem signedNumber_yearText {y : Int} (rest : List Char) (small : y.natAbs < 10 ^ 18) :
    signedNumber (Date.yearText y ++ '-' :: rest) = .ok (y, '-' :: rest) := by
  unfold Date.yearText
  split
  · rename_i short
    have read := number_width ('-' :: rest) (Nat.succ_pos 3) (by decide)
      (show y.natAbs < 10 ^ 4 by omega)
    obtain ⟨c, cs, written, digit⟩ := exists_padded_eq_cons 4 y.natAbs
    rw [written, List.cons_append] at read ⊢
    unfold signedNumber
    split
    · rename_i sign
      rw [(List.cons.inj sign).1] at digit
      cases digit
    · rename_i sign
      rw [(List.cons.inj sign).1] at digit
      cases digit
    · simp only [bind, StateT.bind, read, Except.bind]
      rw [Int.ofNat_eq_natCast, Int.natAbs_of_nonneg (by omega)]
      rfl
  · have read := number_dash 4 rest small
    by_cases negative : y < 0
    · rw [if_pos negative]
      simp only [List.cons_append, signedNumber, bind, StateT.bind, read, Except.bind]
      rw [Int.ofNat_eq_natCast, Int.ofNat_natAbs_of_nonpos (by omega), Int.neg_neg]
      rfl
    · rw [if_neg negative]
      simp only [List.cons_append, signedNumber, bind, StateT.bind, read, Except.bind]
      rw [Int.ofNat_eq_natCast, Int.natAbs_of_nonneg (by omega)]
      rfl

/-- A year starts with a digit or a sign. -/
theorem skipBlanks_yearText (y : Int) (rest : List Char) :
    skipBlanks (Date.yearText y ++ rest) = .ok ((), Date.yearText y ++ rest) := by
  unfold Date.yearText
  split
  · exact skipBlanks_padded 4 _ rest
  · rw [List.cons_append]
    refine skipBlanks_cons _ ?_
    split <;> decide

theorem year_yearText {y : Int} (rest : List Char) (range : minYear ≤ y ∧ y ≤ maxYear) :
    year (Date.yearText y ++ '-' :: rest) = .ok (y, '-' :: rest) := by
  have small : y.natAbs < 10 ^ 18 := by unfold minYear maxYear at range; omega
  have word : Width.IsInt32 y := by
    unfold minYear maxYear at range
    unfold Width.IsInt32 Width.minInt32 Width.maxInt32
    omega
  simp only [year, bind, StateT.bind, skipBlanks_yearText, Except.bind,
    signedNumber_yearText rest small, if_pos word]
  rfl

/-- The three numbers of a written date, in front of other text. -/
theorem yearMonthDay_append (d : Date) (rest : List Char) :
    yearMonthDay (d.toChars ++ rest) = .ok ((d.year, d.month, d.day), rest) := by
  have days := Nat.le_trans d.day_range.2 (monthLength_le d.year d.month)
  have month := bounded_padded 12 ('-' :: (padded 2 d.day ++ rest)) d.month_range (by decide)
  have day := bounded_padded 31 rest ⟨d.day_range.1, days⟩ (by decide)
  have dash (rest : List Char) : skipBlanks ('-' :: rest) = .ok ((), '-' :: rest) :=
    skipBlanks_cons rest (by decide)
  simp only [Date.toChars, List.append_assoc, List.cons_append, yearMonthDay, bind, StateT.bind,
    year_yearText _ d.year_range, dash, literal, Except.bind, if_true, month, day]
  rfl

/-- The three numbers of a written date. -/
theorem yearMonthDay_toChars (d : Date) :
    yearMonthDay d.toChars = .ok ((d.year, d.month, d.day), []) := by
  rw [← List.append_nil d.toChars, yearMonthDay_append]

end DateText

namespace Date

open Numeral

/-- **A date is found again from its text.** -/
@[simp] theorem parse_toText (d : Date) : parse d.toText = .ok d := by
  have read : DateText.readAll (do
      let ymd ← DateText.yearMonthDay
      DateText.skipBlanks
      return ymd) d.toText = .ok (d.year, d.month, d.day) := by
    simp only [DateText.readAll, toText, String.toList_ofList, StateT.run', bind,
      StateT.bind, DateText.yearMonthDay_toChars, Except.bind]
    rfl
  unfold parse
  rw [read]
  simp only [bind, Except.bind, ofYmd?_self]

/-! ### The order of written dates -/

theorem length_yearText {y : Int} (range : 0 ≤ y ∧ y ≤ 9999) : (yearText y).length = 4 := by
  rw [yearText, if_pos range]
  exact length_padded (by decide) (by omega)

theorem yearText_lt_yearText {y z : Int} (less : y < z) (first : 0 ≤ y) (last : z ≤ 9999) :
    yearText y < yearText z := by
  rw [yearText, yearText, if_pos ⟨first, by omega⟩, if_pos ⟨by omega, last⟩]
  exact padded_lt_padded (by decide) (by omega) (by omega)

/-- A year before year 0 starts with a sign, which is smaller than any digit. -/
theorem yearText_append_lt {y z : Int} (negative : y < 0) (range : 0 ≤ z ∧ z ≤ 9999)
    (rest rest' : List Char) : yearText y ++ rest < yearText z ++ rest' := by
  obtain ⟨c, cs, written, digit⟩ := exists_padded_eq_cons 4 z.natAbs
  rw [yearText, yearText, if_neg (by omega), if_pos negative, if_pos range, written,
    List.cons_append, List.cons_append, List.cons_lt_cons_iff]
  have low : '0' ≤ c := of_decide_eq_true (Bool.and_eq_true_iff.mp digit).1
  exact .inl (Nat.lt_of_lt_of_le (by decide : '-'.toNat < '0'.toNat) low)

/-- The text of a month and a day. -/
theorem monthDay_lt {d e : Date} (less : d.month < e.month ∨ (d.month = e.month ∧ d.day < e.day)) :
    padded 2 d.month ++ '-' :: padded 2 d.day < padded 2 e.month ++ '-' :: padded 2 e.day := by
  have months := d.month_range
  have months' := e.month_range
  rcases less with month | ⟨month, day⟩
  · refine append_lt_append ?_ (padded_lt_padded (by decide) month (by omega)) _ _
    rw [length_padded (by decide) (by omega), length_padded (by decide) (by omega)]
  · rw [month]
    have days := Nat.le_trans e.day_range.2 (monthLength_le e.year e.month)
    exact List.append_left_lt (List.cons_lt_cons_iff.mpr
      (.inr ⟨rfl, padded_lt_padded (by decide) day (by omega)⟩))

/-- **An earlier date has a smaller text** than a date whose year is written without a sign. -/
theorem toText_lt_of_lt {d e : Date} (less : d < e) (range : 0 ≤ e.year ∧ e.year ≤ 9999) :
    d.toText < e.toText := by
  rw [String.lt_iff, toText, toText, String.toList_ofList, String.toList_ofList]
  simp only [toChars, List.append_assoc, List.cons_append]
  have index := monthIndex_le_of_le (Int.le_of_lt less)
  have months := d.month_range
  have months' := e.month_range
  unfold monthIndex at index
  rcases Int.lt_or_le d.year 0 with negative | first
  · exact yearText_append_lt negative range _ _
  rcases Int.lt_or_eq_of_le (show d.year ≤ e.year by omega) with year | year
  · refine append_lt_append ?_ (yearText_lt_yearText year first range.2) _ _
    rw [length_yearText ⟨first, by omega⟩, length_yearText range]
  · rw [year]
    refine List.append_left_lt (List.cons_lt_cons_iff.mpr (.inr ⟨rfl, monthDay_lt ?_⟩))
    rcases Nat.lt_or_eq_of_le (show d.month ≤ e.month by omega) with month | month
    · exact .inl month
    · refine .inr ⟨month, ?_⟩
      rw [lt_iff, dayNumber, dayNumber, year, month] at less
      omega

/-- A date whose year is written without a sign comes before the dates that have a larger text. -/
theorem lt_of_toText_lt {d e : Date} (less : d.toText < e.toText)
    (range : 0 ≤ d.year ∧ d.year ≤ 9999) : d < e := by
  refine Int.not_le.mp fun le => ?_
  rcases Int.lt_or_eq_of_le le with later | same
  · exact String.lt_irrefl _ (String.lt_trans less (toText_lt_of_lt (d := e) later range))
  · cases dayNumber_inj.mp same
    exact String.lt_irrefl _ less

/-- Texts of the years from 0 to 9999 are in the order of their dates. -/
theorem toText_lt_iff {d e : Date} (first : 0 ≤ d.year ∧ d.year ≤ 9999)
    (second : 0 ≤ e.year ∧ e.year ≤ 9999) : d.toText < e.toText ↔ d < e :=
  ⟨fun less => lt_of_toText_lt less first, fun less => toText_lt_of_lt less second⟩

end Date

end Reminders
