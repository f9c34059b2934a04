/-!
Binary numbers, exactly.

A double is decoded into a sign and a natural number times a power of two, or into one of the values
that are not numbers. All writing of amounts starts from this exact value.
-/

namespace Reminders

/-- A double, taken apart. -/
inductive Binary where
  | nan
  | infinite (negative : Bool)
  /-- The number `mantissa * 2 ^ exponent`, with a sign. -/
  | finite (negative : Bool) (mantissa : Nat) (exponent : Int)
deriving DecidableEq

/-- A ratio of natural numbers; the denominator is used only when it is positive. -/
structure Ratio where
  num : Nat
  den : Nat

namespace Ratio

/-- The ratio times a power of ten. -/
def shift10 (r : Ratio) (places : Int) : Ratio :=
  if 0 ≤ places then ⟨r.num * Nat.pow 10 places.toNat, r.den⟩ else ⟨r.num, r.den * Nat.pow 10 (-places).toNat⟩

/-- The ratio times a power of two. -/
def shift2 (n : Nat) (exponent : Int) : Ratio :=
  if 0 ≤ exponent then ⟨n * Nat.pow 2 exponent.toNat, 1⟩ else ⟨n, Nat.pow 2 (-exponent).toNat⟩

/-- The nearest natural number; of two, the even one. -/
def roundEven (r : Ratio) : Nat :=
  let below := r.num / r.den
  let rest := r.num % r.den
  if 2 * rest < r.den then below
  else if r.den < 2 * rest then below + 1
  else if below % 2 = 0 then below else below + 1

/-- The rounded number is within half of one of the ratio. -/
theorem roundEven_near (r : Ratio) (h : 0 < r.den) :
    2 * (r.roundEven * r.den) ≤ 2 * r.num + r.den ∧ 2 * r.num ≤ 2 * (r.roundEven * r.den) + r.den := by
  have hd := Nat.div_add_mod r.num r.den
  have hm := Nat.mod_lt r.num h
  unfold roundEven
  simp only
  generalize r.num / r.den = q at *
  generalize r.num % r.den = m at *
  have hc : r.den * q = q * r.den := Nat.mul_comm _ _
  have hs : (q + 1) * r.den = q * r.den + r.den := Nat.succ_mul _ _
  split
  · omega
  · split
    · rw [hs]; omega
    · split
      · omega
      · rw [hs]; omega

end Ratio

namespace Binary

/-- The bit that a mantissa has above its stored ones, unless it is among the least. -/
def hiddenBit : Nat := Nat.pow 2 52

/-- The parts of a double. -/
def ofFloat (x : Float) : Binary :=
  let bits : Nat := x.toBits.toNat
  let negative := decide (Nat.pow 2 63 ≤ bits)
  let field : Nat := bits / hiddenBit % 2048
  let fraction : Nat := bits % hiddenBit
  if field = 2047 then
    if fraction = 0 then .infinite negative else .nan
  else if field = 0 then .finite negative fraction (-1074)
  else .finite negative (hiddenBit + fraction) ((field : Int) - 1075)

end Binary

end Reminders
