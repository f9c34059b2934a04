import Reminders.Calendar.DateText

/-!
Written dates.

Main statement:

* `Date.toText_inj`: different dates have different texts. The sign of a year decides how its text
  starts, and the digits of each number end where a dash follows.
-/

namespace Reminders

namespace Numeral

theorem takeWhile_isDigit_append {ds : List Char} (rest : List Char)
    (digits : ∀ c ∈ ds, isDigit c = true) : (ds ++ '-' :: rest).takeWhile isDigit = ds := by
  induction ds with
  | nil => rfl
  | cons c ds ih =>
    rw [List.cons_append, List.takeWhile_cons_of_pos (digits c List.mem_cons_self),
      ih fun d hd => digits d (List.mem_cons_of_mem _ hd)]

/-- Two numerals with a dash after them are the same text only for the same number and the same
rest. -/
theorem padded_dash_inj {width m n : Nat} {rest rest' : List Char}
    (h : padded width m ++ '-' :: rest = padded width n ++ '-' :: rest') : m = n ∧ rest = rest' := by
  have same : padded width m = padded width n := by
    rw [← takeWhile_isDigit_append rest fun c => isDigit_of_mem_padded (n := m), h,
      takeWhile_isDigit_append rest' fun c => isDigit_of_mem_padded]
  refine ⟨?_, ?_⟩
  · rw [← value_padded width m, same, value_padded]
  · rw [same] at h
    exact (List.cons.inj (List.append_cancel_left h)).2

theorem padded_inj {width m n : Nat} (h : padded width m = padded width n) : m = n := by
  rw [← value_padded width m, h, value_padded]

theorem exists_padded_eq_cons (width n : Nat) :
    ∃ c cs, padded width n = c :: cs ∧ isDigit c = true := by
  cases h : padded width n with
  | nil =>
    exact absurd (List.append_eq_nil_iff.mp h).2 (digits_ne_nil n)
  | cons c cs =>
    have mem : c ∈ padded width n := h ▸ List.mem_cons_self
    exact ⟨c, cs, rfl, isDigit_of_mem_padded mem⟩

/-- A numeral does not start with a sign. -/
theorem padded_append_ne_cons {width n : Nat} {sign : Char} {rest rest' : List Char}
    (notDigit : isDigit sign = false) : padded width n ++ rest ≠ sign :: rest' := by
  obtain ⟨c, cs, written, digit⟩ := exists_padded_eq_cons width n
  intro h
  rw [written] at h
  rw [(List.cons.inj h).1, notDigit] at digit
  cases digit

end Numeral

namespace Date

open Numeral

/-- A year and what follows its dash are found again. -/
theorem yearText_dash_inj {y y' : Int} {rest rest' : List Char}
    (h : yearText y ++ '-' :: rest = yearText y' ++ '-' :: rest') : y = y' ∧ rest = rest' := by
  unfold yearText at h
  by_cases short : 0 ≤ y ∧ y ≤ 9999 <;> by_cases short' : 0 ≤ y' ∧ y' ≤ 9999
  · rw [if_pos short, if_pos short'] at h
    obtain ⟨abs, tails⟩ := padded_dash_inj h
    exact ⟨by omega, tails⟩
  · rw [if_pos short, if_neg short'] at h
    exact absurd h (padded_append_ne_cons (by split <;> decide))
  · rw [if_neg short, if_pos short'] at h
    exact absurd h.symm (padded_append_ne_cons (by split <;> decide))
  · rw [if_neg short, if_neg short'] at h
    obtain ⟨signs, digits⟩ := List.cons.inj h
    obtain ⟨abs, tails⟩ := padded_dash_inj digits
    refine ⟨?_, tails⟩
    by_cases negative : y < 0 <;> by_cases negative' : y' < 0
    · omega
    · rw [if_pos negative, if_neg negative'] at signs
      exact absurd signs (by decide)
    · rw [if_neg negative, if_pos negative'] at signs
      exact absurd signs (by decide)
    · omega

/-- Different dates have different texts. -/
theorem toText_inj {d d' : Date} (h : d.toText = d'.toText) : d = d' := by
  have chars : d.toChars = d'.toChars := String.ofList_injective h
  simp only [toChars, List.append_assoc, List.cons_append] at chars
  obtain ⟨years, rest⟩ := yearText_dash_inj chars
  obtain ⟨months, rest⟩ := padded_dash_inj rest
  exact Date.ext years months (padded_inj rest)

end Date

end Reminders
