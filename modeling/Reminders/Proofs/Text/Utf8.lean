import Mathlib.Algebra.Group.Nat.Defs
import Reminders.Text.Utf8

/-!
Reading the octets of a text.

The octets of a character are read as that character, so a text is found again from its octets.

* `Utf8.lossyChars_utf8EncodeChar`: the octets of one character in front of others.
* `Utf8.decode?_bytes`: the octets of a text.
-/

namespace Reminders.Utf8

/-! ### What a leading octet promises -/

theorem toNat_ofNat_of_lt {n : Nat} (lt : n < 256) : (UInt8.ofNat n).toNat = n :=
  UInt8.toNat_ofNat_of_lt' lt

theorem lead?_two {v : Nat} (low : 0x80 ≤ v) (high : v < 0x800) :
    lead? (UInt8.ofNat (v / 64 % 32 + 192)) = some (1, 0x80, 0xBF, v / 64) := by
  unfold lead?
  simp only [toNat_ofNat_of_lt (n := v / 64 % 32 + 192) (by omega)]
  rw [if_pos (by omega), show v / 64 % 32 + 192 - 192 = v / 64 by omega]

/-- The leading octets of three and of four. The bounds leave out what has a shorter form, the halves
of pairs, and what is past the last character. -/
theorem lead?_table :
    (∀ part < 16, lead? (UInt8.ofNat (part + 224)) =
      some (2, if part = 0 then 0xA0 else 0x80, if part = 13 then 0x9F else 0xBF, part)) ∧
    ∀ part < 5, lead? (UInt8.ofNat (part + 240)) =
      some (3, if part = 0 then 0x90 else 0x80, if part = 4 then 0x8F else 0xBF, part) := by
  decide

/-- The second octet of three or of four lies between the bounds that the first one gives. -/
theorem exists_lead? {n v : Nat} (form : n = 2 ∨ n = 3) (low : 2 ^ (5 * n + 1) ≤ v)
    (high : v < 2 ^ (5 * n + 6)) (valid : v < 0xD800 ∨ (0xDFFF < v ∧ v < 0x110000)) :
    ∃ l h, lead? (UInt8.ofNat (v / 64 ^ n % 2 ^ (6 - n) + (256 - 2 ^ (7 - n)))) =
        some (n, l, h, v / 64 ^ n) ∧
      l ≤ v / 64 ^ (n - 1) % 64 + 128 ∧ v / 64 ^ (n - 1) % 64 + 128 ≤ h := by
  rcases form with rfl | rfl <;>
    simp only [Nat.reduceMul, Nat.reduceAdd, Nat.reducePow, Nat.reduceSub] at low high ⊢
  · rw [Nat.mod_eq_of_lt (by omega), lead?_table.1 _ (by omega)]
    refine ⟨_, _, rfl, ?_, ?_⟩ <;> split <;> omega
  · rw [Nat.mod_eq_of_lt (by omega), lead?_table.2 _ (by omega)]
    refine ⟨_, _, rfl, ?_, ?_⟩ <;> split <;> omega

/-! ### Octets that continue a character -/

theorem continuation_zero (low high value : Nat) (bs : List UInt8) :
    continuation 0 low high value bs = (value, 0, bs) := by
  cases bs <;> rfl

theorem continuation_succ {low high part : Nat} (n value : Nat) (rest : List UInt8)
    (low_le : low ≤ part % 64 + 128) (le_high : part % 64 + 128 ≤ high) :
    continuation (n + 1) low high value (UInt8.ofNat (part % 64 + 128) :: rest) =
      continuation n 0x80 0xBF (value * 64 + part % 64) rest := by
  have octet := toNat_ofNat_of_lt (n := part % 64 + 128) (by omega)
  rw [continuation]
  simp only [octet]
  rw [if_pos ⟨low_le, le_high⟩, show (part % 64 + 128) % 64 = part % 64 by omega]

/-! ### Characters and texts -/

/-- **The octets of a character are read as that character.** -/
theorem lossyChars_utf8EncodeChar (c : Char) (rest : List UInt8) :
    lossyChars (String.utf8EncodeChar c ++ rest) = c :: lossyChars rest := by
  have valid : c.toNat < 0xD800 ∨ (0xDFFF < c.toNat ∧ c.toNat < 0x110000) := c.valid
  have again := Char.ofNat_toNat c
  rw [String.utf8EncodeChar.eq_1]
  simp only [show c.val.toNat = c.toNat from rfl]
  generalize c.toNat = v at *
  by_cases one : v ≤ 127
  · have octet := toNat_ofNat_of_lt (n := v) (by omega)
    rw [if_pos one, List.cons_append, List.nil_append, lossyChars, if_pos (by omega), octet, again]
  rw [if_neg one]
  by_cases two : v ≤ 2047
  · have octet := toNat_ofNat_of_lt (n := v / 64 % 32 + 192) (by omega)
    rw [if_pos two, List.cons_append, lossyChars, if_neg (by omega),
      lead?_two (by omega) (by omega)]
    simp only [List.cons_append, List.nil_append]
    rw [continuation_succ 0 _ _ (by omega) (by omega), continuation_zero, if_pos rfl,
      show v / 64 * 64 + v % 64 = v by omega, again]
  rw [if_neg two]
  by_cases three : v ≤ 65535
  · have octet := toNat_ofNat_of_lt (n := v / 4096 % 16 + 224) (by omega)
    obtain ⟨l, h, lead, low, high⟩ := exists_lead? (n := 2) (.inl rfl) (by omega) (by omega) valid
    simp only [Nat.reducePow, Nat.reduceSub] at lead low high
    rw [if_pos three, List.cons_append, lossyChars, if_neg (by omega), lead]
    simp only [List.cons_append, List.nil_append]
    rw [continuation_succ 1 _ _ low high, continuation_succ 0 _ _ (by omega) (by omega),
      continuation_zero, if_pos rfl,
      show (v / 4096 * 64 + v / 64 % 64) * 64 + v % 64 = v by omega, again]
  · have octet := toNat_ofNat_of_lt (n := v / 262144 % 8 + 240) (by omega)
    obtain ⟨l, h, lead, low, high⟩ := exists_lead? (n := 3) (.inr rfl) (by omega) (by omega) valid
    simp only [Nat.reducePow, Nat.reduceSub] at lead low high
    rw [if_neg three, List.cons_append, lossyChars, if_neg (by omega), lead]
    simp only [List.cons_append, List.nil_append]
    rw [continuation_succ 2 _ _ low high, continuation_succ 1 _ _ (by omega) (by omega),
      continuation_succ 0 _ _ (by omega) (by omega), continuation_zero, if_pos rfl,
      show ((v / 262144 * 64 + v / 4096 % 64) * 64 + v / 64 % 64) * 64 + v % 64 = v by omega, again]

theorem lossyChars_flatMap (cs : List Char) :
    lossyChars (cs.flatMap String.utf8EncodeChar) = cs := by
  induction cs with
  | nil => rw [List.flatMap_nil, lossyChars]
  | cons c cs ih => rw [List.flatMap_cons, lossyChars_utf8EncodeChar, ih]

/-- **A text is found again from its octets.** -/
theorem decode?_bytes (s : String) : decode? (bytes s) = some s := by
  have read : lossy (bytes s) = s := by
    rw [lossy, bytes, lossyChars_flatMap, String.ofList_toList]
  unfold decode?
  simp only [read, if_true]

end Reminders.Utf8
