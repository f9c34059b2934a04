import Mathlib.Tactic.Positivity
import Reminders.Decimal.Binary
import Reminders.Proofs.Decimal.Bits

/-!
Doubles that are whole numbers.

A store keeps a double without a fraction as an integer and makes a double of it again when it is
read. Nothing is lost: a double whose value is an integer is the double of that integer, but for the
sign of zero. Making a double of an integer shifts its bits, rounds, packs and unpacks; on a mantissa
that has all its bits, each of these does nothing that the next does not undo.

* `Binary.roundWithAccuracy_eq`: nothing is rounded when only zeros are shifted out.
* `Binary.unpack_eq`: what a double is taken for is what it is unpacked to.
* `Binary.ofInt_beq`
-/

namespace Reminders.Binary

open Float.Model Float.Model.UnpackedFloat

/-! ### Rounding what needs no rounding -/

theorem log2_mul_two_pow {m : Nat} (pos : 0 < m) (k : Nat) : (m * 2 ^ k).log2 = m.log2 + k := by
  rw [Nat.log2_eq_iff (by positivity)]
  have low := Nat.log2_self_le (Nat.ne_of_gt pos)
  have high := Nat.lt_log2_self (n := m)
  constructor
  · rw [Nat.pow_add]
    exact Nat.mul_le_mul_right _ low
  · rw [Nat.add_right_comm, Nat.pow_add]
    exact Nat.mul_lt_mul_of_pos_right high (by positivity)

/-- Zeros that are shifted out leave nothing behind. -/
theorem repeat_shiftRightOne (m k : Nat) :
    k.repeat ExtendedMantissa.shiftRightOne ⟨m * 2 ^ k, false, false⟩ = ⟨m, false, false⟩ := by
  induction k generalizing m with
  | zero => simp [Nat.repeat]
  | succ k ih =>
    rw [Nat.repeat, Nat.pow_succ', ← Nat.mul_assoc, ih]
    simp [ExtendedMantissa.shiftRightOne]

/-- A mantissa that has all its bits is brought back from any shift to the left. -/
theorem shiftToTargetExponent_eq {m : Nat} (full : m.log2 = 52) {e : Int} (low : -1074 ≤ e)
    (k : Nat) :
    shiftToTargetExponent .binary64 (m * 2 ^ k) (e - k) .exact = (⟨m, false, false⟩, e) := by
  have pos : 0 < m := by
    rcases Nat.eq_zero_or_pos m with rfl | pos
    · simp at full
    · exact pos
  have target : Format.binary64.targetExponent (totalExponent (m * 2 ^ k) (e - k)) = e := by
    unfold totalExponent Format.targetExponent
    rw [log2_mul_two_pow pos, full]
    change max (((52 + k : Nat) : Int) + 1 + (e - k) - (53 : Nat)) (-1074) = e
    omega
  unfold shiftToTargetExponent shiftToExponent
  dsimp only
  rw [target, show (e - (e - (k : Int))).toNat = k by omega]
  refine Prod.ext (repeat_shiftRightOne m k) ?_
  dsimp only
  omega

/-- Nothing is rounded when only zeros are shifted out. -/
theorem roundWithAccuracy_eq {m : Nat} (full : m.log2 = 52) (pos : 0 < m) {e : Int}
    (low : -1074 ≤ e) (sign : Sign) (k : Nat) :
    roundWithAccuracy .binary64 sign (m * 2 ^ k) (e - k) .exact = .finite sign m e pos := by
  have again := shiftToTargetExponent_eq full low 0
  rw [Nat.pow_zero, Nat.mul_one, Int.natCast_zero, Int.sub_zero] at again
  unfold roundWithAccuracy
  rw [shiftToTargetExponent_eq full low k]
  change (match shiftToTargetExponent .binary64 m e .exact with
    | (last, exponent) =>
      if h : last.mantissa = 0 then UnpackedFloat.zero sign
      else .finite sign last.mantissa exponent (Nat.pos_of_ne_zero h)) = _
  rw [again]
  exact dif_neg (Nat.ne_of_gt pos)

/-! ### Packing and unpacking -/

theorem unpackSign_packComponents (sign : Sign) (exponent : BitVec 11) (mantissa : BitVec 52) :
    unpackSign (packComponents .binary64 sign exponent mantissa) = sign.toBitVec := by
  change (sign.toBitVec ++ exponent ++ mantissa).extractLsb' (52 + 11) 1 = sign.toBitVec
  apply BitVec.eq_of_getLsbD_eq
  intro i hi
  rw [BitVec.getLsbD_extractLsb', BitVec.getLsbD_append, BitVec.getLsbD_append, if_neg (by omega),
    if_neg (by omega), decide_eq_true hi, Bool.true_and,
    show 52 + 11 + i - 52 - 11 = i by omega]

/-- A double is unpacked to what was packed. -/
theorem unpack_pack {m : Nat} (full : m.log2 = 52) (pos : 0 < m) {e : Int}
    (range : -1074 ≤ e ∧ e ≤ 971) (sign : Sign) :
    (Float.Model.pack (.finite sign m e pos)).unpack = .finite sign m e pos := by
  obtain ⟨low, high⟩ := (Nat.log2_eq_iff (Nat.ne_of_gt pos)).mp full
  have biased : (e + 1023 + 52).toNat = (e + 1075).toNat := by omega
  have exponent : (BitVec.ofNat 11 (e + 1075).toNat).toNat = (e + 1075).toNat := by
    rw [BitVec.toNat_ofNat, Nat.mod_eq_of_lt (by omega)]
  have mantissa : (1#1 ++ BitVec.ofNat 52 m).toNat = m := by
    rw [toNat_one_append, BitVec.toNat_ofNat]
    omega
  generalize packed : packComponents .binary64 sign (BitVec.ofNat 11 (e + 1075).toNat)
    (BitVec.ofNat 52 m) = b
  have signs : unpackSign b = sign.toBitVec := packed ▸ unpackSign_packComponents ..
  have exponents : unpackExponent b = BitVec.ofNat 11 (e + 1075).toNat :=
    packed ▸ unpackExponent_packComponents ..
  have mantissas : unpackMantissa b = BitVec.ofNat 52 m := packed ▸ unpackMantissa_packComponents ..
  have notAll : unpackExponent b ≠ -1#11 := by
    rw [exponents]
    intro h
    have := congrArg BitVec.toNat h
    rw [exponent] at this
    change _ = 2047 at this
    omega
  have notZero : unpackExponent b ≠ 0#11 := by
    rw [exponents]
    intro h
    have := congrArg BitVec.toNat h
    rw [exponent] at this
    change _ = 0 at this
    omega
  change UnpackedFloat.unpack .binary64 (UnpackedFloat.pack .binary64 (.finite sign m e pos)) = _
  rw [pack_finite, biased, if_neg (by omega), if_pos (by rw [full]), packed,
    unpack_normal notAll notZero (by rw [toNat_one_append]; omega)]
  apply finite_congr
  · rw [signs]
    cases sign <;> rfl
  · rw [mantissas, mantissa]
  · rw [exponents, exponent]
    omega

/-! ### Doubles of natural numbers -/

theorem one_unpack : (Float.ofBits 0x3FF0000000000000).toModel.unpack =
    .finite .positive (2 ^ 52) (-52) (by decide) := by
  rfl

/-- A whole number below `2 ^ 53` is a double, with its bits moved up. -/
theorem toFloat_toUInt64 {n m : Nat} (small : n < 2 ^ 53) (full : m.log2 = 52) (pos : 0 < m)
    {k : Nat} (value : m = n * 2 ^ k) :
    n.toUInt64.toFloat = .ofModel (Float.Model.pack (.finite .positive m (-k) pos)) := by
  have some : 0 < n := by
    rcases Nat.eq_zero_or_pos n with rfl | some
    · omega
    · exact some
  have bits : n.log2 + k = 52 := by
    rw [← log2_mul_two_pow some, ← value, full]
  have same : n.toUInt64.toNat = n := by
    simp; omega
  have target : Format.binary64.targetExponent (totalExponent n 0) = -k := by
    unfold totalExponent Format.targetExponent
    change max ((n.log2 : Int) + 1 + 0 - (53 : Nat)) (-1074) = -k
    omega
  have round : UnpackedFloat.round .binary64 .positive n 0 = .finite .positive m (-k) pos := by
    unfold UnpackedFloat.round decreaseExponent
    dsimp only
    rw [target, show ((0 : Int) - -k).toNat = k by omega, Nat.shiftLeft_eq, ← value,
      show (0 : Int) - k = -k by omega]
    have whole := roundWithAccuracy_eq full pos (e := -k) (by omega) .positive 0
    rw [Nat.pow_zero, Nat.mul_one, Int.natCast_zero, Int.sub_zero] at whole
    exact whole
  unfold UInt64.toFloat Float.Model.ofUInt64 UnpackedFloat.ofUInt64 UnpackedFloat.ofNat
    UnpackedFloat.ofInt UnpackedFloat.normalize
  rw [same, Int.compare_eq_gt.mpr (by omega)]
  dsimp only
  rw [Int.toNat_natCast, round]

/-- A small number is made a double and multiplied by one. -/
theorem ofNat_of_small {n m : Nat} (small : n < 2 ^ 53) (full : m.log2 = 52) (pos : 0 < m)
    {k : Nat} (value : m = n * 2 ^ k) :
    Float.ofNat n = .ofModel (Float.Model.pack (.finite .positive m (-k) pos)) := by
  have bits : k ≤ 52 := by
    rcases Nat.eq_zero_or_pos n with rfl | some
    · omega
    · have := log2_mul_two_pow some k
      rw [← value, full] at this
      omega
  change Float.ofScientific n false 0 = _
  unfold Float.ofScientific
  rw [dif_pos ⟨small, by decide⟩]
  dsimp only
  rw [if_neg (by decide), toFloat_toUInt64 small full pos value]
  change Float.ofModel (Float.Model.pack (UnpackedFloat.mul .binary64
    (Float.Model.pack (.finite .positive m (-k) pos)).unpack
    (Float.ofBits 0x3FF0000000000000).toModel.unpack)) = _
  rw [unpack_pack full pos (by omega), one_unpack]
  change Float.ofModel (Float.Model.pack (roundWithAccuracy .binary64 .positive (m * 2 ^ 52)
    (-k + -(52 : Nat)) .exact)) = _
  rw [← Int.sub_eq_add_neg, roundWithAccuracy_eq full pos (by omega)]

/-- A large number is shifted up and rounded. -/
theorem ofNat_of_large {n m : Nat} (large : ¬n < 2 ^ 53) (full : m.log2 = 52) (pos : 0 < m)
    {k : Nat} (value : n = m * 2 ^ k) :
    Float.ofNat n = .ofModel (Float.Model.pack (.finite .positive m k pos)) := by
  change Float.ofScientific n false 0 = _
  unfold Float.ofScientific
  rw [dif_neg (by omega)]
  dsimp only
  rw [if_neg (by decide)]
  unfold Float.Model.ofScientific UnpackedFloat.ofScientific
  have bits := Int.natCast_nonneg n.log2
  rw [dif_neg (by omega), if_neg (by decide),
    if_neg (by change ¬(0 : Int) < -((2 : Int) ^ 11 + n.log2); omega), if_pos (by decide)]
  change Float.ofModel (Float.Model.pack (roundWithAccuracy .binary64 .positive ((n <<< 53) * 1)
    (-(53 : Nat) + 0) .exact)) = _
  rw [Nat.mul_one, Nat.shiftLeft_eq, value, Nat.mul_assoc, ← Nat.pow_add,
    show (-((53 : Nat) : Int) + 0) = (k : Int) - ((k + 53 : Nat) : Int) by omega,
    roundWithAccuracy_eq full pos (by omega)]

/-! ### A double and its parts -/

/-- The sign of a double. -/
def signOf (negative : Bool) : Sign := if negative then .negative else .positive

/-- What a double is taken for, as it is unpacked. -/
def toUnpacked : Binary → UnpackedFloat
  | .nan => .notANumber
  | .infinite negative => .infinity (signOf negative)
  | .finite negative mantissa exponent =>
    if pos : 0 < mantissa then .finite (signOf negative) mantissa exponent pos
    else .zero (signOf negative)

theorem toUnpacked_finite {negative : Bool} {m : Nat} {e : Int} (pos : 0 < m) :
    toUnpacked (.finite negative m e) = .finite (signOf negative) m e pos := dif_pos pos

theorem toNat_unpackExponent (b : BitVec 64) :
    (@unpackExponent .binary64 b).toNat = b.toNat / 2 ^ 52 % 2048 := by
  change (b.extractLsb' 52 11).toNat = _
  rw [BitVec.extractLsb'_toNat, Nat.shiftRight_eq_div_pow]

theorem toNat_unpackMantissa (b : BitVec 64) :
    (@unpackMantissa .binary64 b).toNat = b.toNat % 2 ^ 52 := by
  change (b.extractLsb' 0 52).toNat = _
  rw [BitVec.extractLsb'_toNat, Nat.shiftRight_zero]

theorem ofBitVec_unpackSign (b : BitVec 64) :
    Sign.ofBitVec (@unpackSign .binary64 b) = signOf (decide (2 ^ 63 ≤ b.toNat)) := by
  have value : (@unpackSign .binary64 b).toNat = b.toNat / 2 ^ 63 := by
    have := b.isLt
    change (b.extractLsb' 63 1).toNat = _
    rw [BitVec.extractLsb'_toNat, Nat.shiftRight_eq_div_pow]
    omega
  have zero : @unpackSign .binary64 b = 0#1 ↔ ¬2 ^ 63 ≤ b.toNat := by
    rw [← BitVec.toNat_inj, value]
    change b.toNat / 2 ^ 63 = 0 ↔ _
    omega
  unfold Sign.ofBitVec signOf
  by_cases low : 2 ^ 63 ≤ b.toNat
  · rw [if_neg (by rw [zero]; exact not_not_intro low), if_pos (decide_eq_true low)]
  · rw [if_pos (zero.mpr low), if_neg (by simpa using low)]

/-- The parts of a double are those that it is taken for. -/
theorem unpack_eq (x : Float) : x.toModel.unpack = (ofFloat x).toUnpacked := by
  generalize bits : x.toModel.toBits.toBitVec = b
  have number : x.toBits.toNat = b.toNat := congrArg BitVec.toNat bits
  have allOnes : @unpackExponent .binary64 b = -1#11 ↔ b.toNat / 2 ^ 52 % 2048 = 2047 := by
    rw [← BitVec.toNat_inj, toNat_unpackExponent]
    rfl
  have allZeros : @unpackExponent .binary64 b = 0#11 ↔ b.toNat / 2 ^ 52 % 2048 = 0 := by
    rw [← BitVec.toNat_inj, toNat_unpackExponent]
    rfl
  have empty : @unpackMantissa .binary64 b = 0#52 ↔ b.toNat % 2 ^ 52 = 0 := by
    rw [← BitVec.toNat_inj, toNat_unpackMantissa]
    rfl
  have signs := ofBitVec_unpackSign b
  change UnpackedFloat.unpack .binary64 x.toModel.toBits.toBitVec = _
  unfold ofFloat hiddenBit
  simp only [bits, number, Nat.pow_eq]
  by_cases special : b.toNat / 2 ^ 52 % 2048 = 2047
  · rw [unpack_special (allOnes.mpr special), if_pos special]
    by_cases none : b.toNat % 2 ^ 52 = 0
    · rw [if_pos (empty.mpr none), if_pos none, signs]
      rfl
    · rw [if_neg (mt empty.mp none), if_neg none]
      rfl
  rw [if_neg special]
  by_cases small : b.toNat / 2 ^ 52 % 2048 = 0
  · rw [if_pos small]
    by_cases none : b.toNat % 2 ^ 52 = 0
    · rw [unpack_zero (allZeros.mpr small) (empty.mpr none), none, signs]
      rfl
    · have pos := Nat.pos_of_ne_zero none
      rw [toUnpacked_finite pos, unpack_subnormal (allZeros.mpr small) (mt empty.mp none)
        (by rw [toNat_unpackMantissa]; exact pos)]
      exact finite_congr signs (toNat_unpackMantissa b) rfl
  · rw [if_neg small, toUnpacked_finite (by omega), unpack_normal (mt allOnes.mp special)
      (mt allZeros.mp small) (by rw [toNat_one_append]; omega)]
    refine finite_congr signs ?_ ?_
    · rw [toNat_one_append, toNat_unpackMantissa]
    · rw [toNat_unpackExponent]

/-! ### Numbers -/

theorem ofFloat_eq_nan_iff {x : Float} : ofFloat x = .nan ↔ x.isNaN = true := by
  unfold Float.isNaN Float.Model.isNaN
  rw [unpack_eq]
  cases ofFloat x with
  | nan => exact iff_of_true rfl rfl
  | infinite negative => exact iff_of_false nofun Bool.false_ne_true
  | finite negative mantissa exponent =>
    refine iff_of_false nofun ?_
    rcases Nat.eq_zero_or_pos mantissa with rfl | pos
    · exact Bool.false_ne_true
    · rw [toUnpacked_finite pos]
      exact Bool.false_ne_true

theorem compare_self {u : UnpackedFloat} (number : u ≠ .notANumber) : u.compare u = some .eq := by
  cases u with
  | notANumber => exact absurd rfl number
  | infinity sign => cases sign <;> rfl
  | zero sign => rfl
  | finite sign m e pos =>
    have same : (compare e e).then (compare m m) = .eq := by simp
    cases sign with
    | positive => exact congrArg some same
    | negative => exact congrArg (fun o => some o.swap) same

/-- A number equals itself. -/
theorem beq_self {x : Float} (number : x.isNaN = false) : (x == x) = true := by
  have unpacked : x.toModel.unpack ≠ .notANumber := by
    intro h
    unfold Float.isNaN Float.Model.isNaN at number
    rw [h] at number
    cases number
  change (x.toModel.unpack.compare x.toModel.unpack == some .eq) = true
  rw [compare_self unpacked]
  rfl

/-- The finite doubles are the small ones and those whose mantissa has all its bits. -/
theorem of_ofFloat_eq_finite {x : Float} {negative : Bool} {m : Nat} {e : Int}
    (h : ofFloat x = .finite negative m e) :
    (m < 2 ^ 52 ∧ e = -1074) ∨ (m.log2 = 52 ∧ -1074 ≤ e ∧ e ≤ 971) := by
  unfold ofFloat hiddenBit at h
  simp only [Nat.pow_eq] at h
  split at h
  · split at h <;> cases h
  · rename_i notAll
    split at h
    · cases h
      exact .inl ⟨Nat.mod_lt _ (by decide), rfl⟩
    · rename_i notZero
      cases h
      refine .inr ⟨?_, by omega⟩
      rw [Nat.log2_eq_iff (by omega)]
      omega

/-- A natural number is the double of a full mantissa and an exponent when that is its value. -/
theorem ofNat_eq {m n : Nat} {e : Int} (full : m.log2 = 52) (pos : 0 < m)
    (value : (0 ≤ e ∧ n = m * 2 ^ e.toNat) ∨ (e < 0 ∧ m = n * 2 ^ (-e).toNat)) :
    Float.ofNat n = .ofModel (Float.Model.pack (.finite .positive m e pos)) := by
  obtain ⟨least, below⟩ := (Nat.log2_eq_iff (Nat.ne_of_gt pos)).mp full
  obtain ⟨low, rfl⟩ | ⟨high, whole⟩ := value
  · obtain ⟨k, rfl⟩ := Int.eq_ofNat_of_zero_le low
    rw [Int.toNat_natCast]
    cases k with
    | zero =>
      rw [Nat.pow_zero, Nat.mul_one]
      exact ofNat_of_small below full pos (k := 0) (Nat.mul_one m).symm
    | succ k =>
      refine ofNat_of_large ?_ full pos rfl
      have : m * 2 ≤ m * 2 ^ (k + 1) := Nat.mul_le_mul_left _ (Nat.le_self_pow (by omega) 2)
      omega
  · obtain ⟨k, rfl⟩ : ∃ k : Nat, e = -k := ⟨(-e).toNat, by omega⟩
    rw [Int.neg_neg, Int.toNat_natCast] at whole
    refine ofNat_of_small ?_ full pos whole
    exact Nat.lt_of_le_of_lt (whole ▸ Nat.le_mul_of_pos_right n (by positivity)) below

/-- **A double whose value is an integer is the double of that integer**, unless it is zero. -/
theorem ofInt_eq {x : Float} {negative : Bool} {m n : Nat} {e : Int}
    (h : ofFloat x = .finite negative m e) (pos : 0 < m)
    (value : (0 ≤ e ∧ n = m * 2 ^ e.toNat) ∨ (e < 0 ∧ m = n * 2 ^ (-e).toNat)) :
    Float.ofInt (if negative then -(n : Int) else n) = x := by
  have one : 0 < n := by
    obtain ⟨-, rfl⟩ | ⟨-, rfl⟩ := value
    · positivity
    · exact Nat.pos_of_mul_pos_right pos
  have full : m.log2 = 52 ∧ -1074 ≤ e ∧ e ≤ 971 := by
    refine (of_ofFloat_eq_finite h).resolve_left ?_
    -- A smaller double lies between zero and one.
    rintro ⟨small, rfl⟩
    obtain ⟨low, -⟩ | ⟨-, whole⟩ := value
    · omega
    · have room : 52 ≤ (-(-1074 : Int)).toNat := by decide
      have := Nat.le_trans (Nat.pow_le_pow_right Nat.two_pos room) (Nat.le_mul_of_pos_left _ one)
      exact absurd (whole ▸ this) (Nat.not_le.mpr small)
  have again := ofModel_pack_unpack x
  rw [unpack_eq, h, toUnpacked_finite pos] at again
  cases negative with
  | false => exact (ofNat_eq full.1 pos value).trans again
  | true =>
    obtain ⟨k, rfl⟩ := Nat.exists_eq_succ_of_ne_zero (Nat.ne_of_gt one)
    change Float.neg (Float.ofNat (k + 1)) = x
    rw [ofNat_eq full.1 pos value]
    change Float.ofModel (Float.Model.pack
      (Float.Model.pack (.finite .positive m e pos)).unpack.neg) = x
    rw [unpack_pack full.1 pos full.2]
    exact again

/-- Zero of either sign equals the double of the integer zero. -/
theorem ofInt_zero_beq {x : Float} {negative : Bool} {e : Int}
    (h : ofFloat x = .finite negative 0 e) : (Float.ofInt 0 == x) = true := by
  change ((Float.ofInt 0).toModel.unpack.compare x.toModel.unpack == some .eq) = true
  rw [unpack_eq x, h]
  rfl

/-- A double without a fraction equals the double of its integer. -/
theorem ofInt_beq {x : Float} {negative : Bool} {m : Nat} {e : Int}
    (h : ofFloat x = .finite negative m e)
    (whole : (Ratio.shift2 m e).num % (Ratio.shift2 m e).den = 0) :
    (Float.ofInt (if negative then -((Ratio.shift2 m e).num / (Ratio.shift2 m e).den : Nat)
      else ((Ratio.shift2 m e).num / (Ratio.shift2 m e).den : Nat)) == x) = true := by
  have number : x.isNaN = false := by
    rw [Bool.eq_false_iff]
    intro nan
    rw [ofFloat_eq_nan_iff.mpr nan] at h
    cases h
  rcases Nat.eq_zero_or_pos m with rfl | pos
  · have zero : (Ratio.shift2 0 e).num / (Ratio.shift2 0 e).den = 0 := by
      unfold Ratio.shift2
      split <;> simp
    rw [zero]
    simpa using ofInt_zero_beq h
  · have value : (0 ≤ e ∧ (Ratio.shift2 m e).num / (Ratio.shift2 m e).den = m * 2 ^ e.toNat) ∨
        (e < 0 ∧ m = (Ratio.shift2 m e).num / (Ratio.shift2 m e).den * 2 ^ (-e).toNat) := by
      unfold Ratio.shift2 at whole ⊢
      by_cases low : 0 ≤ e
      · rw [if_pos low] at whole ⊢
        exact .inl ⟨low, Nat.div_one _⟩
      · rw [if_neg low] at whole ⊢
        exact .inr ⟨Int.not_le.mp low, (Nat.div_mul_cancel (Nat.dvd_of_mod_eq_zero whole)).symm⟩
    rw [ofInt_eq h pos value]
    exact beq_self number

end Reminders.Binary
