import KanaVoice.Proofs.Single.Order
set_option autoImplicit false

/-!
# Negation

Negation changes a sign and nothing else, so rounding and packing commute with it: the product of a
negated number is the negated product, also where the product is an infinity, a zero or a NaN.  It
turns the order around, and the nearest integer of a number is its count less that of the negated
one.
-/

namespace KanaVoice

open Float.Model (Format UnpackedFloat)
open Float.Model.UnpackedFloat

namespace Rounding

variable {f : Format}

/-! ## Rounding and packing -/

theorem neg_mul_sign (s t : Sign) : -s * t = -(s * t) := by
  cases s <;> cases t <;> rfl

theorem roundWithAccuracy_neg (s : Sign) (m : Nat) (e : Int) (accuracy : Accuracy) :
    roundWithAccuracy f (-s) m e accuracy = (roundWithAccuracy f s m e accuracy).neg := by
  simp only [roundWithAccuracy]
  split <;> rfl

theorem mul_neg_left (a b : UnpackedFloat) :
    UnpackedFloat.mul f a.neg b = (UnpackedFloat.mul f a b).neg := by
  cases a with
  | notANumber => cases b <;> rfl
  | zero s =>
    cases b with
    | notANumber => rfl
    | infinity t => rfl
    | zero t => exact congrArg UnpackedFloat.zero (neg_mul_sign s t)
    | finite t n e pos => exact congrArg UnpackedFloat.zero (neg_mul_sign s t)
  | infinity s =>
    cases b with
    | notANumber => rfl
    | zero t => rfl
    | infinity t => exact congrArg UnpackedFloat.infinity (neg_mul_sign s t)
    | finite t n e pos => exact congrArg UnpackedFloat.infinity (neg_mul_sign s t)
  | finite s m d pos =>
    cases b with
    | notANumber => rfl
    | zero t => exact congrArg UnpackedFloat.zero (neg_mul_sign s t)
    | infinity t => exact congrArg UnpackedFloat.infinity (neg_mul_sign s t)
    | finite t n e pos' =>
      have rounded := roundWithAccuracy_neg (f := f) (s * t) (m * n) (d + e) .exact
      rwa [← neg_mul_sign] at rounded

/-- The sign is a field of its own in the bits, so the other fields are read as they were. -/
theorem unpack_packComponents_neg (s : Sign) (exponent : BitVec f.exponentBits)
    (mantissa : BitVec f.mantissaBitsWithoutImplicit) :
    UnpackedFloat.unpack f (packComponents f (-s) exponent mantissa) =
      (UnpackedFloat.unpack f (packComponents f s exponent mantissa)).neg := by
  rw [UnpackedFloat.unpack, UnpackedFloat.unpack]
  simp only [unpackMantissa_packComponents, unpackExponent_packComponents,
    unpackSign_packComponents, Sign.ofBitVec_toBitVec]
  split
  case isTrue => split <;> rfl
  case isFalse =>
    split
    · split <;> rfl
    · rfl

theorem unpack_pack_neg (a : UnpackedFloat) :
    UnpackedFloat.unpack f (pack f a.neg) = (UnpackedFloat.unpack f (pack f a)).neg := by
  cases a with
  | notANumber =>
    show UnpackedFloat.unpack f (packedNaN f) = (UnpackedFloat.unpack f (packedNaN f)).neg
    rw [unpack_packedNaN]
    rfl
  | zero s => exact unpack_packComponents_neg s _ _
  | infinity s => exact unpack_packComponents_neg s _ _
  | finite s m e pos =>
    rw [UnpackedFloat.neg, pack, pack]
    split
    · exact unpack_packComponents_neg s _ _
    · split
      · exact unpack_packComponents_neg s _ _
      · exact unpack_packComponents_neg s _ _

/-! ## Comparison -/

/-- Negated numbers compare the other way round. -/
theorem compare_neg_neg (a b : UnpackedFloat) :
    UnpackedFloat.compare a.neg b.neg = UnpackedFloat.compare b a := by
  cases a with
  | notANumber => cases b <;> rfl
  | infinity s =>
    cases b with
    | notANumber => cases s <;> rfl
    | infinity t => cases s <;> cases t <;> rfl
    | zero t => cases s <;> rfl
    | finite t n e pos => cases s <;> rfl
  | zero s =>
    cases b with
    | notANumber => rfl
    | infinity t => cases t <;> rfl
    | zero t => rfl
    | finite t n e pos => cases t <;> rfl
  | finite s m d pos =>
    cases b with
    | notANumber => rfl
    | infinity t => cases t <;> cases s <;> rfl
    | zero t => cases s <;> rfl
    | finite t n e pos' =>
      cases s with
      | positive =>
        cases t with
        | positive => exact congrArg some (compare_swap_finite n m e d).symm
        | negative => rfl
      | negative =>
        cases t with
        | positive => rfl
        | negative => exact congrArg some (compare_swap_finite m n d e)

end Rounding

namespace Single

variable {x y : Float32}

/-! ## Negated numbers -/

theorem unpack_neg (x : Float32) : (-x).toModel.unpack = x.toModel.unpack.neg := by
  have packed : (-x).toModel.unpack = (Float32.Model.pack x.toModel.unpack.neg).unpack := rfl
  have kept : (Float32.Model.pack x.toModel.unpack).unpack = x.toModel.unpack := by
    rw [pack_unpack_model]
  rw [packed]
  exact (Rounding.unpack_pack_neg _).trans (congrArg UnpackedFloat.neg kept)

/-- A number is given by what it stands for. -/
theorem eq_of_unpack_eq (same : x.toModel.unpack = y.toModel.unpack) : x = y := by
  have model : x.toModel = y.toModel := by
    rw [← pack_unpack_model x.toModel, same, pack_unpack_model]
  exact congrArg Float32.ofModel model

protected theorem neg_mul (x y : Float32) : -x * y = -(x * y) := by
  apply eq_of_unpack_eq
  rw [unpack_neg, unpack_mul, unpack_mul, unpack_neg, Rounding.mul_neg_left]
  exact Rounding.unpack_pack_neg _

protected theorem neg_neg (x : Float32) : - -x = x := by
  apply eq_of_unpack_eq
  rw [unpack_neg, unpack_neg]
  cases x.toModel.unpack with
  | notANumber => rfl
  | infinity s => cases s <;> rfl
  | zero s => cases s <;> rfl
  | finite s m e pos => cases s <;> rfl

protected theorem neg_le_neg (le : x ≤ y) : -y ≤ -x := by
  rw [le_iff] at le ⊢
  rw [unpack_neg, unpack_neg, UnpackedFloat.le, Rounding.compare_neg_neg]
  exact le

protected theorem neg_lt_neg_iff : -x < -y ↔ y < x := by
  rw [lt_iff, lt_iff, unpack_neg, unpack_neg, UnpackedFloat.lt, Rounding.compare_neg_neg,
    UnpackedFloat.lt]

/-! ## The nearest integer -/

/-- What a number is rounded to is counted on its own side of zero. -/
theorem toIntRounded_eq_sub (limit : Nat) (x : Float32) :
    toIntRounded limit x = toNatRounded limit x - toNatRounded (limit + 1) (-x) := by
  have same : Single.unpack x = x.toModel.unpack := rfl
  have same' : Single.unpack (-x) = x.toModel.unpack.neg := unpack_neg x
  rw [toIntRounded, toNatRounded, toNatRounded, same, same']
  cases x.toModel.unpack with
  | notANumber => rfl
  | zero s => cases s <;> rfl
  | infinity s =>
    cases s with
    | positive => exact (Int.sub_zero _).symm
    | negative =>
      show -(limit : Int) - 1 = 0 - (limit + 1 : Nat)
      omega
  | finite s m e pos =>
    cases s with
    | positive =>
      show min (roundHalfUp m e : Int) limit = (min (roundHalfUp m e) limit : Nat) - 0
      omega
    | negative =>
      show max (-(roundHalfUp m e : Int)) (-limit - 1) =
        0 - (min (roundHalfUp m e) (limit + 1) : Nat)
      omega

theorem toIntRounded_mono (limit : Nat) (le : x ≤ y) :
    toIntRounded limit x ≤ toIntRounded limit y := by
  have above := toNatRounded_mono limit le
  have below := toNatRounded_mono (limit + 1) (Single.neg_le_neg le)
  rw [toIntRounded_eq_sub, toIntRounded_eq_sub]
  omega

/-- A lower limit only cuts off what lies beyond it. -/
theorem toIntRounded_of_le {limit most : Nat} (lower : limit ≤ most) (x : Float32) :
    toIntRounded limit x = max (-(limit : Int) - 1) (min (toIntRounded most x) limit) := by
  have same : Single.unpack x = x.toModel.unpack := rfl
  rw [toIntRounded, toIntRounded, same]
  cases x.toModel.unpack with
  | notANumber =>
    show (0 : Int) = max (-(limit : Int) - 1) (min 0 limit)
    omega
  | zero s =>
    show (0 : Int) = max (-(limit : Int) - 1) (min 0 limit)
    omega
  | infinity s =>
    cases s with
    | positive =>
      show (limit : Int) = max (-(limit : Int) - 1) (min most limit)
      omega
    | negative =>
      show -(limit : Int) - 1 = max (-(limit : Int) - 1) (min (-most - 1) limit)
      omega
  | finite s m e pos =>
    cases s with
    | positive =>
      show min (roundHalfUp m e : Int) limit =
        max (-(limit : Int) - 1) (min (min (roundHalfUp m e) most) limit)
      omega
    | negative =>
      show max (-(roundHalfUp m e : Int)) (-limit - 1) =
        max (-(limit : Int) - 1) (min (max (-(roundHalfUp m e : Int)) (-most - 1)) limit)
      omega

theorem toIntRounded_of_isNaN (limit : Nat) (nan : x.isNaN = true) : toIntRounded limit x = 0 := by
  have same : Single.unpack x = x.toModel.unpack := rfl
  rw [toIntRounded, same, isNaN_iff.1 nan]

/-- Rounding a negated number negates the result, unless a limit cuts it off. -/
theorem toIntRounded_neg {limit : Nat} (within : -(limit : Int) ≤ toIntRounded limit x)
    (within' : -(limit : Int) ≤ toIntRounded limit (-x)) :
    toIntRounded limit (-x) = -toIntRounded limit x := by
  have same : Single.unpack x = x.toModel.unpack := rfl
  have same' : Single.unpack (-x) = x.toModel.unpack.neg := unpack_neg x
  rw [toIntRounded, same] at within
  rw [toIntRounded, same'] at within'
  rw [toIntRounded, toIntRounded, same, same']
  cases h : x.toModel.unpack with
  | notANumber => rfl
  | zero s => cases s <;> rfl
  | infinity s =>
    rw [h] at within within'
    cases s with
    | positive =>
      have below : -(limit : Int) ≤ -limit - 1 := within'
      omega
    | negative =>
      have below : -(limit : Int) ≤ -limit - 1 := within
      omega
  | finite s m e pos =>
    rw [h] at within within'
    cases s with
    | positive =>
      have below : -(limit : Int) ≤ max (-(roundHalfUp m e : Int)) (-limit - 1) := within'
      show max (-(roundHalfUp m e : Int)) (-limit - 1) = -min (roundHalfUp m e : Int) limit
      omega
    | negative =>
      have below : -(limit : Int) ≤ max (-(roundHalfUp m e : Int)) (-limit - 1) := within
      show min (roundHalfUp m e : Int) limit = -max (-(roundHalfUp m e : Int)) (-limit - 1)
      omega

end Single

end KanaVoice
