import Mathlib.Algebra.Group.Nat.Defs

/-!
The bits of a double.

A double is found again from its bits. Of the many bit patterns that are not a number only one is the
pattern of a double, so nothing is lost there either.

* `Binary.pack_finite`, `Binary.unpack_special`, `Binary.unpack_subnormal`, `Binary.unpack_normal`:
  packing and unpacking, with the widths of a double.
* `Binary.pack_unpack`: a valid pattern is packed again as it was.
* `Binary.ofBits_toBits`
-/

namespace Reminders.Binary

open Float.Model Float.Model.UnpackedFloat

variable {b : BitVec Format.binary64.numBits} {sign sign' : Sign} {m m' : Nat} {e e' : Int}

/-- A finite number is given by its sign, its mantissa and its exponent. -/
theorem finite_congr {pos : 0 < m} {pos' : 0 < m'} (signs : sign = sign') (mantissas : m = m')
    (exponents : e = e') :
    UnpackedFloat.finite sign m e pos = .finite sign' m' e' pos' := by
  cases signs
  cases mantissas
  cases exponents
  rfl

/-- How a finite number is packed. -/
theorem pack_finite (pos : 0 < m) :
    UnpackedFloat.pack .binary64 (.finite sign m e pos) =
      if 2 ^ 11 ≤ (e + 1023 + 52).toNat + 1 then packedInfinity .binary64 sign
      else if m.log2 + 1 = 53 then
        packComponents .binary64 sign (BitVec.ofNat 11 (e + 1023 + 52).toNat) (BitVec.ofNat 52 m)
      else packComponents .binary64 sign 0#11 (BitVec.ofNat 52 m) := rfl

/-- An exponent of ones stands for no number. -/
theorem unpack_special (all : unpackExponent b = -1#11) :
    UnpackedFloat.unpack .binary64 b =
      if unpackMantissa b = 0#52 then .infinity (Sign.ofBitVec (unpackSign b))
      else .notANumber := if_pos all

/-- An exponent of zeros without a mantissa is zero. -/
theorem unpack_zero (zero : unpackExponent b = 0#11) (none : unpackMantissa b = 0#52) :
    UnpackedFloat.unpack .binary64 b = .zero (Sign.ofBitVec (unpackSign b)) :=
  (if_neg (by rw [zero]; decide)).trans ((if_pos zero).trans (dif_pos none))

/-- An exponent of zeros leaves the mantissa as it is. -/
theorem unpack_subnormal (zero : unpackExponent b = 0#11) (some : unpackMantissa b ≠ 0#52)
    (pos : 0 < (unpackMantissa b).toNat) :
    UnpackedFloat.unpack .binary64 b =
      .finite (Sign.ofBitVec (unpackSign b)) (unpackMantissa b).toNat (-1074) pos := by
  refine (if_neg (by rw [zero]; decide)).trans ((if_pos zero).trans ((dif_neg some).trans ?_))
  exact finite_congr rfl rfl (by rw [zero]; rfl)

/-- Every other exponent puts a bit above the mantissa. -/
theorem unpack_normal (notAll : unpackExponent b ≠ -1#11) (notZero : unpackExponent b ≠ 0#11)
    (pos : 0 < (1#1 ++ unpackMantissa b).toNat) :
    UnpackedFloat.unpack .binary64 b = .finite (Sign.ofBitVec (unpackSign b))
      (1#1 ++ unpackMantissa b).toNat (((unpackExponent b).toNat : Int) - 1075) pos :=
  (if_neg notAll).trans (if_neg notZero)

/-- The mantissa with its hidden bit. -/
theorem toNat_one_append (mantissa : BitVec 52) :
    (1#1 ++ mantissa).toNat = 2 ^ 52 + mantissa.toNat := by
  rw [BitVec.toNat_append]
  exact (Nat.shiftLeft_add_eq_or_of_lt mantissa.isLt 1).symm

/-- A bit pattern consists of its sign, its exponent and its mantissa. -/
theorem packComponents_unpack (b : BitVec Format.binary64.numBits) :
    packComponents .binary64 (Sign.ofBitVec (unpackSign b)) (unpackExponent b) (unpackMantissa b) =
      b := by
  have sign : (Sign.ofBitVec (unpackSign b)).toBitVec = unpackSign b := by
    generalize unpackSign b = s
    revert s
    decide
  unfold packComponents
  rw [sign]
  change b.extractLsb' (52 + 11) 1 ++ b.extractLsb' 52 11 ++ b.extractLsb' 0 52 = b
  rw [BitVec.extractLsb'_append_extractLsb'_eq_extractLsb' (by rfl),
    BitVec.extractLsb'_append_extractLsb'_eq_extractLsb' (by rfl)]
  exact BitVec.extractLsb'_eq_self

theorem pack_subnormal (sign : Sign) {mantissa : BitVec 52} (pos : 0 < mantissa.toNat) :
    UnpackedFloat.pack .binary64 (.finite sign mantissa.toNat (-1074) pos) =
      packComponents .binary64 sign 0#11 mantissa := by
  have bits : mantissa.toNat.log2 < 52 := (Nat.log2_lt (by omega)).mpr mantissa.isLt
  rw [pack_finite, if_neg (by decide), if_neg (by omega), BitVec.ofNat_toNat, BitVec.setWidth_eq]

theorem pack_normal (sign : Sign) {exponent : BitVec 11} {mantissa : BitVec 52}
    (notAll : exponent ≠ -1#11) (pos : 0 < (1#1 ++ mantissa).toNat) :
    UnpackedFloat.pack .binary64
        (.finite sign (1#1 ++ mantissa).toNat ((exponent.toNat : Int) - 1075) pos) =
      packComponents .binary64 sign exponent mantissa := by
  have lt := mantissa.isLt
  have room : exponent.toNat < 2047 := by
    have lt := exponent.isLt
    have ne : exponent.toNat ≠ 2047 := fun h => notAll (BitVec.eq_of_toNat_eq h)
    omega
  have bits : (1#1 ++ mantissa).toNat.log2 = 52 := by
    rw [toNat_one_append, Nat.log2_eq_iff (by omega)]
    omega
  have biased : ((exponent.toNat : Int) - 1075 + 1023 + 52).toNat = exponent.toNat := by omega
  rw [pack_finite, biased, if_neg (by omega), if_pos (by rw [bits])]
  congr 1
  · exact BitVec.eq_of_toNat_eq (by simp)
  · refine BitVec.eq_of_toNat_eq ?_
    rw [toNat_one_append, BitVec.toNat_ofNat, Nat.add_mod_left, Nat.mod_eq_of_lt lt]

/-- **A valid pattern is packed again as it was.** -/
theorem pack_unpack (valid : Format.binary64.Valid b) :
    UnpackedFloat.pack .binary64 (UnpackedFloat.unpack .binary64 b) = b := by
  have whole := packComponents_unpack b
  by_cases all : unpackExponent b = -1#11
  · rw [unpack_special all]
    by_cases none : unpackMantissa b = 0#52
    · rw [if_pos none]
      rw [all, none] at whole
      exact whole
    · rw [if_neg none]
      exact (valid.eq_packedNaN all none).symm
  by_cases zero : unpackExponent b = 0#11
  · by_cases none : unpackMantissa b = 0#52
    · rw [unpack_zero zero none]
      rw [zero, none] at whole
      exact whole
    · have pos : 0 < (unpackMantissa b).toNat :=
        Nat.pos_of_ne_zero fun h => none (BitVec.eq_of_toNat_eq h)
      rw [zero] at whole
      rw [unpack_subnormal zero none pos]
      exact (pack_subnormal _ pos).trans whole
  · have pos : 0 < (1#1 ++ unpackMantissa b).toNat := by
      rw [toNat_one_append]
      omega
    rw [unpack_normal all zero pos]
    exact (pack_normal _ all pos).trans whole

/-- Nothing but its bits makes a double. -/
theorem eq_of_toBits_eq {x y : Float.Model} (same : x.toBits = y.toBits) : x = y := by
  obtain ⟨bits, valid⟩ := x
  obtain ⟨bits', valid'⟩ := y
  cases same
  rfl

/-- A double is packed again as it was. -/
theorem ofModel_pack_unpack (x : Float) : Float.ofModel (Float.Model.pack x.toModel.unpack) = x := by
  obtain ⟨bits, valid⟩ := x
  have same : (Float.Model.pack (UnpackedFloat.unpack .binary64 bits.toBitVec)).toBits = bits :=
    congrArg UInt64.ofBitVec (pack_unpack valid)
  exact congrArg Float.ofModel (eq_of_toBits_eq same)

/-- **A double is found again from its bits.** -/
theorem ofBits_toBits (x : Float) : Float.ofBits x.toBits = x := ofModel_pack_unpack x

end Reminders.Binary
