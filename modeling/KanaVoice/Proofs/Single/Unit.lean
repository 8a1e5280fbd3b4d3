import Mathlib
import KanaVoice.Single.Basic
set_option autoImplicit false

/-!
# One in products and quotients

A product with one and a quotient by one are the number itself, whatever the number is.  A finite
number stands for a mantissa and an exponent of which the mantissa fills its bits, unless the
exponent is the least one; rounding finds the same pair again when the product or the quotient is
exact.
-/

namespace KanaVoice.Single

open Float.Model (Format UnpackedFloat totalExponent)
open Float.Model.UnpackedFloat

/-! ## Packed numbers -/

/-- The mantissa fills its bits, or the exponent is the least one. -/
def IsCanonical (m : Nat) (e : Int) : Prop :=
  m.log2 = 23 ∧ -149 ≤ e ∨ m.log2 < 23 ∧ e = -149

theorem toBitVec_ofBitVec (v : BitVec 1) : (Sign.ofBitVec v).toBitVec = v := by
  revert v
  decide

/-- A bit pattern consists of its sign, its exponent and its mantissa. -/
theorem packComponents_parts (b : BitVec Format.binary32.numBits) :
    packComponents .binary32 (Sign.ofBitVec (unpackSign b)) (unpackExponent b)
      (unpackMantissa b) = b := by
  rw [packComponents, toBitVec_ofBitVec]
  apply BitVec.eq_of_getLsbD_eq
  intro i inside
  have width : i < 32 := inside
  simp only [unpackSign, unpackExponent, unpackMantissa, BitVec.getLsbD_append,
    BitVec.getLsbD_cast, BitVec.getLsbD_extractLsb]
  by_cases mantissa : i < 23
  · simp [mantissa]
  by_cases exponent : i - 23 < 8
  · have place : 23 + (i - 23) = i := by omega
    simp [mantissa, exponent, place]
  · have last : i = 31 := by omega
    subst last
    simp [BitVec.getLsbD_eq_getElem inside]

theorem toNat_implicit (v : BitVec 23) : (1#1 ++ v).toNat = 2 ^ 23 + v.toNat := by
  rw [BitVec.toNat_append, ← Nat.shiftLeft_add_eq_or_of_lt v.isLt]
  rfl

theorem log2_implicit (v : BitVec 23) : (2 ^ 23 + v.toNat).log2 = 23 := by
  have small := v.isLt
  rw [Nat.log2_eq_iff (by omega)]
  omega

theorem exponentBias_eq : Format.binary32.exponentBias = 127 := rfl

theorem pack_of_full {s : Sign} {m : Nat} {e : Int} {pos : 0 < m} (full : m.log2 = 23)
    (bounded : (e + 150).toNat < 255) :
    pack .binary32 (.finite s m e pos) =
      packComponents .binary32 s (BitVec.ofNat 8 (e + 150).toNat) (BitVec.ofNat 23 m) := by
  have biased : (e + Format.binary32.exponentBias + (23 : Nat)).toNat = (e + 150).toNat := by
    rw [exponentBias_eq]
    omega
  have bits : m.log2 + 1 = Format.binary32.mantissaBits := by
    rw [full]
    rfl
  simp only [pack, biased]
  rw [if_neg (by omega), if_pos bits]

theorem pack_of_short {s : Sign} {m : Nat} {pos : 0 < m} (short : m.log2 < 23) :
    pack .binary32 (.finite s m (-149) pos) =
      packComponents .binary32 s 0#8 (BitVec.ofNat 23 m) := by
  have biased : (-149 + Format.binary32.exponentBias + (23 : Nat) : Int).toNat = 1 := rfl
  have bits : ¬ m.log2 + 1 = Format.binary32.mantissaBits := by
    have : Format.binary32.mantissaBits = 24 := rfl
    omega
  simp only [pack, biased]
  rw [if_neg (by omega), if_neg bits]

theorem log2_toNat_lt {v : BitVec 23} (h : v ≠ 0#23) : v.toNat.log2 < 23 := by
  have pos : v.toNat ≠ 0 := fun zero => h (BitVec.eq_of_toNat_eq zero)
  exact (Nat.log2_lt pos).2 v.isLt

/-- Packing what was unpacked gives the bit pattern back. -/
theorem pack_unpack {b : BitVec Format.binary32.numBits} (valid : Format.binary32.Valid b) :
    pack .binary32 (UnpackedFloat.unpack .binary32 b) = b := by
  have parts := packComponents_parts b
  unfold UnpackedFloat.unpack
  simp only []
  split
  case isTrue full =>
    split
    case isTrue zero =>
      rw [full, zero] at parts
      exact parts
    case isFalse other => exact (valid.eq_packedNaN full other).symm
  case isFalse notFull =>
    split
    case isTrue least =>
      split
      case isTrue zero =>
        rw [least, zero] at parts
        exact parts
      case isFalse other =>
        have least' : (unpackExponent b).toNat = 0 := by rw [least]; rfl
        have exponent : ((unpackExponent b).toNat - (Format.binary32.exponentBias + (23 : Nat)) + 1
            : Int) = -149 := by
          rw [least', exponentBias_eq]
          omega
        rw [exponent, pack_of_short (log2_toNat_lt other), ← least, BitVec.ofNat_toNat,
          BitVec.setWidth_eq]
        exact parts
    case isFalse other =>
      have bounded : (unpackExponent b).toNat < 255 := by
        have : (unpackExponent b).toNat ≠ 255 := fun h => notFull (BitVec.eq_of_toNat_eq h)
        have below : (unpackExponent b).toNat < 256 := (unpackExponent b).isLt
        omega
      have exponent : ((unpackExponent b).toNat - (Format.binary32.exponentBias + (23 : Nat))
          + 150 : Int).toNat = (unpackExponent b).toNat := by
        rw [exponentBias_eq]
        omega
      have full : (1#1 ++ unpackMantissa b).toNat.log2 = 23 := by
        rw [toNat_implicit, log2_implicit]
      have mantissa : BitVec.ofNat 23 (1#1 ++ unpackMantissa b).toNat = unpackMantissa b := by
        apply BitVec.eq_of_toNat_eq
        rw [toNat_implicit, BitVec.toNat_ofNat, Nat.add_mod_left, Nat.mod_eq_of_lt]
        exact (unpackMantissa b).isLt
      rw [pack_of_full full (by rw [exponent]; exact bounded), exponent, mantissa,
        BitVec.ofNat_toNat, BitVec.setWidth_eq]
      exact parts

theorem isCanonical_of_unpack {b : BitVec Format.binary32.numBits} {s : Sign} {m : Nat} {e : Int}
    {pos : 0 < m} (h : UnpackedFloat.unpack .binary32 b = .finite s m e pos) : IsCanonical m e := by
  unfold UnpackedFloat.unpack at h
  simp only [] at h
  split at h
  case isTrue =>
    split at h
    · cases h
    · cases h
  case isFalse =>
    split at h
    case isTrue least =>
      split at h
      · cases h
      case isFalse other =>
        injection h with _ mantissa exponent
        have least' : (unpackExponent b).toNat = 0 := by rw [least]; rfl
        refine .inr ⟨?_, ?_⟩
        · rw [← mantissa]
          exact log2_toNat_lt other
        · rw [← exponent, least', exponentBias_eq]
          rfl
    case isFalse other =>
      injection h with _ mantissa exponent
      refine .inl ⟨?_, ?_⟩
      · rw [← mantissa, toNat_implicit, log2_implicit]
      · have : (unpackExponent b).toNat ≠ 0 := fun h => other (BitVec.eq_of_toNat_eq h)
        rw [← exponent, exponentBias_eq]
        omega

/-! ## Rounding what is exact -/

theorem targetExponent_eq (t : Int) : Format.binary32.targetExponent t = max (t - 24) (-149) := rfl

theorem shiftRight_mul_two_pow (m k : Nat) :
    (⟨m * 2 ^ k, false, false⟩ : ExtendedMantissa) >>> k = ⟨m, false, false⟩ := by
  show k.repeat ExtendedMantissa.shiftRightOne _ = _
  induction k generalizing m with
  | zero => simp [Nat.repeat]
  | succ k ih =>
    have split : m * 2 ^ (k + 1) = m * 2 * 2 ^ k := by
      rw [Nat.pow_succ, Nat.mul_comm (2 ^ k), Nat.mul_assoc]
    rw [Nat.repeat, split, ih]
    simp [ExtendedMantissa.shiftRightOne]

theorem log2_mul_two_pow {m : Nat} (pos : 0 < m) (k : Nat) : (m * 2 ^ k).log2 = m.log2 + k := by
  induction k with
  | zero => rw [Nat.pow_zero, Nat.mul_one, Nat.add_zero]
  | succ k ih =>
    have step : m * 2 ^ (k + 1) = 2 * (m * 2 ^ k) := by
      rw [Nat.pow_succ, ← Nat.mul_assoc, Nat.mul_comm]
    have nonzero : m * 2 ^ k ≠ 0 := Nat.mul_ne_zero (by omega) (Nat.ne_of_gt (Nat.two_pow_pos k))
    rw [step, Nat.log2_two_mul nonzero, ih, Nat.add_assoc]

theorem targetExponent_of_isCanonical {m : Nat} {e : Int} (pos : 0 < m) (h : IsCanonical m e)
    (k : Nat) :
    Format.binary32.targetExponent (totalExponent (m * 2 ^ k) (e - k)) = e := by
  rw [targetExponent_eq, totalExponent, log2_mul_two_pow pos]
  rcases h with ⟨full, least⟩ | ⟨short, rfl⟩
  · omega
  · omega

theorem shiftToTargetExponent_of_isCanonical {m : Nat} {e : Int} (pos : 0 < m)
    (h : IsCanonical m e) (k : Nat) :
    shiftToTargetExponent .binary32 (m * 2 ^ k) (e - k) .exact = (⟨m, false, false⟩, e) := by
  have amount : (e - (e - k)).toNat = k := by omega
  simp only [shiftToTargetExponent, shiftToExponent, targetExponent_of_isCanonical pos h, amount]
  rw [ExtendedMantissa.ofMantissaAndAccuracy, shiftRight_mul_two_pow, Int.sub_add_cancel]

/-- Rounding finds a canonical pair again, however its mantissa was shifted up. -/
theorem roundWithAccuracy_of_isCanonical (s : Sign) {m : Nat} {e : Int} (pos : 0 < m)
    (h : IsCanonical m e) (k : Nat) :
    roundWithAccuracy .binary32 s (m * 2 ^ k) (e - k) .exact = .finite s m e pos := by
  have again := shiftToTargetExponent_of_isCanonical pos h 0
  rw [Nat.pow_zero, Nat.mul_one, Int.natCast_zero, Int.sub_zero] at again
  have kept : ExtendedMantissa.roundedMantissa ⟨m, false, false⟩ = m := rfl
  simp only [roundWithAccuracy, shiftToTargetExponent_of_isCanonical pos h, kept, again]
  rw [dif_neg (by omega)]

/-! ## Products and quotients -/

theorem one_unpacked :
    (1 : Float32).toModel.unpack = .finite .positive (2 ^ 23) (-23) (by decide) := by
  rfl

theorem mul_positive (s : Sign) : s * .positive = s := by
  cases s <;> rfl

theorem div_positive (s : Sign) : s / .positive = s := by
  cases s <;> rfl

/-- The number that a model stands for is packed into that model. -/
theorem pack_unpack_model (x : Float32.Model) : Float32.Model.pack x.unpack = x := by
  obtain ⟨bits, valid⟩ := x
  have same : pack .binary32 (UnpackedFloat.unpack .binary32 bits.toBitVec) = bits.toBitVec :=
    pack_unpack valid
  simp only [Float32.Model.pack, Float32.Model.unpack, same]

theorem isCanonical_of_unpack_model (x : Float32.Model) (s : Sign) (m : Nat) (e : Int)
    (pos : 0 < m) (h : x.unpack = .finite s m e pos) : IsCanonical m e :=
  isCanonical_of_unpack h

theorem mul_one_unpacked {f : UnpackedFloat} {one : 0 < 2 ^ 23}
    (h : ∀ s m e pos, f = .finite s m e pos → IsCanonical m e) :
    UnpackedFloat.mul .binary32 f (.finite .positive (2 ^ 23) (-23) one) = f := by
  cases f with
  | notANumber => rfl
  | infinity s => exact congrArg UnpackedFloat.infinity (mul_positive s)
  | zero s => exact congrArg UnpackedFloat.zero (mul_positive s)
  | finite s m e pos =>
    have rounded := roundWithAccuracy_of_isCanonical s pos (h s m e pos rfl) 23
    rw [UnpackedFloat.mul, mul_positive]
    exact rounded

/-- A quotient by one has the number's value with one more bit, or with none. -/
theorem divCore_one {m : Nat} {e : Int} (h : IsCanonical m e) :
    ∃ k : Nat, divCore .binary32 m e (2 ^ 23) (-23) = (m * 2 ^ k, e - k, .exact) := by
  have one : totalExponent (2 ^ 23) (-23) = 1 := by decide
  obtain ⟨k, target⟩ : ∃ k : Nat, min (e - -23)
      (Format.binary32.targetExponent (totalExponent m e - 1)) = e - k := by
    refine ⟨(e - max (m.log2 + e - 24) (-149)).toNat, ?_⟩
    rw [targetExponent_eq, totalExponent]
    rcases h with ⟨full, least⟩ | ⟨short, rfl⟩
    · omega
    · omega
  have amount : (e - -23 - (e - k)).toNat = k + 23 := by omega
  have scaled : m <<< (k + 23) = m * 2 ^ k * 2 ^ 23 := by
    rw [Nat.shiftLeft_eq, Nat.pow_add, Nat.mul_assoc]
  refine ⟨k, ?_⟩
  simp only [divCore, one, target, amount, scaled]
  rw [Nat.mul_div_cancel _ (by decide), Nat.mul_mod_left]
  rfl

theorem div_one_unpacked {f : UnpackedFloat} {one : 0 < 2 ^ 23}
    (h : ∀ s m e pos, f = .finite s m e pos → IsCanonical m e) :
    UnpackedFloat.div .binary32 f (.finite .positive (2 ^ 23) (-23) one) = f := by
  cases f with
  | notANumber => rfl
  | infinity s => exact congrArg UnpackedFloat.infinity (div_positive s)
  | zero s => exact congrArg UnpackedFloat.zero (div_positive s)
  | finite s m e pos =>
    obtain ⟨k, quotient⟩ := divCore_one (h s m e pos rfl)
    rw [UnpackedFloat.div, quotient, div_positive]
    exact roundWithAccuracy_of_isCanonical s pos (h s m e pos rfl) k

theorem mul_one (x : Float32) : x * 1 = x := by
  have model : x.toModel * (1 : Float32).toModel = x.toModel := by
    show Float32.Model.pack (UnpackedFloat.mul _ x.toModel.unpack (1 : Float32).toModel.unpack) = _
    rw [one_unpacked, mul_one_unpacked (isCanonical_of_unpack_model _), pack_unpack_model]
  exact congrArg Float32.ofModel model

theorem div_one (x : Float32) : x / 1 = x := by
  have model : x.toModel / (1 : Float32).toModel = x.toModel := by
    show Float32.Model.pack (UnpackedFloat.div _ x.toModel.unpack (1 : Float32).toModel.unpack) = _
    rw [one_unpacked, div_one_unpacked (isCanonical_of_unpack_model _), pack_unpack_model]
  exact congrArg Float32.ofModel model

theorem exp2_zero : exp2 0 = 1 := by
  rfl

end KanaVoice.Single
