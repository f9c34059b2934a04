import Reminders.Json.Parser
import Reminders.Json.Printer

/-!
Strings and numerals of JSON.

A string is found again from what stands between its quotes, and the number of a numeral without
fraction and exponent from its digits, if what follows does not go on with the numeral.

* `Json.stringBody_escaped`
* `Json.number?_signed`
-/

namespace Reminders.Json

/-! ### Strings -/

theorem hexQuad?_hexDigit {n : Nat} (lt : n < 32) :
    hexQuad? '0' '0' (hexDigit (n / 16)) (hexDigit (n % 16)) = some n := by
  have all : ∀ k : Fin 32,
      hexQuad? '0' '0' (hexDigit (k / 16)) (hexDigit (k % 16)) = some k.val := by
    decide
  exact all ⟨n, lt⟩

/-- A character is found again from what stands for it between quotes. -/
theorem stringBody_escapeChar (c : Char) (rest : List Char) :
    stringBody (escapeChar c ++ rest) =
      (stringBody rest).map fun (cs, after) => (c :: cs, after) := by
  by_cases quote : c = '"'
  · subst quote; simp [escapeChar, stringBody, escaped?]
  by_cases slash : c = '\\'
  · subst slash; simp [escapeChar, stringBody, escaped?]
  by_cases line : c = '\n'
  · subst line; simp [escapeChar, stringBody, escaped?]
  by_cases back : c = '\r'
  · subst back; simp [escapeChar, stringBody, escaped?]
  by_cases tab : c = '\t'
  · subst tab; simp [escapeChar, stringBody, escaped?]
  by_cases erase : c = '\x08'
  · subst erase; simp [escapeChar, stringBody, escaped?]
  by_cases feed : c = '\x0c'
  · subst feed; simp [escapeChar, stringBody, escaped?]
  by_cases control : c.toNat < 32
  · have notHalf : ¬(0xD800 ≤ c.toNat ∧ c.toNat < 0xE000) := by omega
    simp only [escapeChar, if_neg quote, if_neg slash, if_neg line, if_neg back, if_neg tab,
      if_neg erase, if_neg feed, if_pos control, List.cons_append, List.nil_append, stringBody,
      hexQuad?_hexDigit control, if_neg notHalf, Char.ofNat_toNat]
  · simp [escapeChar, stringBody, *]

/-- **A string is found again from what stands between its quotes.** -/
theorem stringBody_escaped (cs rest : List Char) :
    stringBody (cs.flatMap escapeChar ++ '"' :: rest) = some (cs, rest) := by
  induction cs with
  | nil => rfl
  | cons c cs ih =>
    rw [List.flatMap_cons, List.append_assoc, stringBody_escapeChar, ih, Option.map_some]

/-! ### Numerals -/

/-- What stands behind a value: the end of the text, a comma, or the end of the value around it. -/
def Ends (rest : List Char) : Prop := ∀ c ∈ rest.head?, c = ',' ∨ c = ']' ∨ c = '\x7d'

theorem ends_nil : Ends [] := fun _ h => nomatch h

theorem ends_cons {c : Char} {rest : List Char} (h : c = ',' ∨ c = ']' ∨ c = '\x7d') :
    Ends (c :: rest) := by
  rintro _ ⟨⟩
  exact h

theorem digits?_digits (n : Nat) {rest : List Char} (ends : Ends rest) :
    digits? (Numeral.digits n ++ rest) = some (Numeral.digits n, rest) := by
  have taken : (Numeral.digits n ++ rest).takeWhile Numeral.isDigit = Numeral.digits n := by
    rw [List.takeWhile_append_of_pos fun c => Numeral.isDigit_of_mem_digits]
    cases rest with
    | nil => exact List.append_nil _
    | cons c rest =>
      have other : Numeral.isDigit c = false := by
        rcases ends c rfl with rfl | rfl | rfl <;> decide
      rw [List.takeWhile_cons_of_neg (by rw [other]; exact Bool.false_ne_true), List.append_nil]
  simp only [digits?, taken, if_neg (Numeral.digits_ne_nil n), List.drop_left]

theorem head?_digits_ne {n : Nat} (pos : 0 < n) : (Numeral.digits n).head? ≠ some '0' := by
  induction n using Nat.strongRecOn with
  | _ n ih =>
    unfold Numeral.digits
    split
    · rename_i small
      have all : ∀ d : Fin 10, 0 < d.val → Numeral.digitChar d ≠ '0' := by decide
      exact fun h => all ⟨n, small⟩ pos (Option.some.inj h)
    · rename_i large
      obtain ⟨c, cs, start⟩ := List.exists_cons_of_ne_nil (Numeral.digits_ne_nil (n / 10))
      have first := ih (n / 10) (by omega) (by omega)
      rw [start] at first ⊢
      exact first

/-- A numeral has no zero before other digits. -/
theorem not_leadingZero (n : Nat) :
    ¬(2 ≤ (Numeral.digits n).length ∧ (Numeral.digits n).head? = some '0') := by
  rintro ⟨long, zero⟩
  rcases Nat.eq_zero_or_pos n with rfl | pos
  · rw [Numeral.digits, if_pos (by decide)] at long
    exact absurd long (by decide)
  · exact head?_digits_ne pos zero

theorem fraction?_of_ends {rest : List Char} (ends : Ends rest) :
    fraction? rest = some ([], rest) := by
  cases rest with
  | nil => rfl
  | cons c rest => rcases ends c rfl with rfl | rfl | rfl <;> rfl

theorem exponent?_of_ends {rest : List Char} (ends : Ends rest) :
    exponent? rest = some (none, rest) := by
  cases rest with
  | nil => rfl
  | cons c rest => rcases ends c rfl with rfl | rfl | rfl <;> rfl

/-- **The number of a numeral is found again from its digits.** -/
theorem number?_signed (n : Int) {rest : List Char} (ends : Ends rest) :
    number? (Numeral.signed n ++ rest) =
      (wholeNumber? (decide (n < 0)) n.natAbs).map fun v => (v, rest) := by
  have value := Numeral.value_digits n.natAbs
  by_cases negative : n < 0
  · simp only [Numeral.signed, if_pos negative, List.cons_append, number?, digits?_digits _ ends,
      Option.bind_eq_bind, Option.bind_some, if_neg (not_leadingZero n.natAbs),
      fraction?_of_ends ends, exponent?_of_ends ends, and_self, if_true, value,
      decide_eq_true negative]
    cases wholeNumber? true n.natAbs <;> rfl
  · have noSign : ∀ after, Numeral.digits n.natAbs ++ rest ≠ '-' :: after := by
      intro after same
      obtain ⟨c, cs, start⟩ := List.exists_cons_of_ne_nil (Numeral.digits_ne_nil n.natAbs)
      rw [start, List.cons_append, List.cons.injEq] at same
      have digit := Numeral.isDigit_of_mem_digits (start ▸ List.mem_cons_self)
      rw [same.1] at digit
      exact absurd digit (by decide)
    unfold number?
    split
    rename_i sign
    split at sign
    · rename_i same
      rw [Numeral.signed, if_neg negative] at same
      exact absurd same (noSign _)
    · cases sign
      simp only [Numeral.signed, if_neg negative, digits?_digits _ ends, Option.bind_eq_bind,
        Option.bind_some, if_neg (not_leadingZero n.natAbs), fraction?_of_ends ends,
        exponent?_of_ends ends, and_self, if_true, value, decide_eq_false negative]
      cases wholeNumber? false n.natAbs <;> rfl

/-- The first character of a numeral. -/
theorem signed_cons (n : Int) :
    ∃ c cs, Numeral.signed n = c :: cs ∧ (c = '-' ∨ Numeral.isDigit c = true) := by
  unfold Numeral.signed
  split
  · exact ⟨_, _, rfl, .inl rfl⟩
  · obtain ⟨c, cs, start⟩ := List.exists_cons_of_ne_nil (Numeral.digits_ne_nil n.natAbs)
    exact ⟨c, cs, start, .inr (Numeral.isDigit_of_mem_digits (start ▸ List.mem_cons_self))⟩

end Reminders.Json
