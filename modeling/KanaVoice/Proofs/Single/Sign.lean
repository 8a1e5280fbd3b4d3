import KanaVoice.Proofs.Single.Packing
import KanaVoice.Proofs.Single.Zero
set_option autoImplicit false

/-!
# Signs

Every number but a NaN has a sign, zeros and infinities included, and packing keeps it.  A product
has the product of the signs, so that a positive factor makes nothing positive that was not.
-/

namespace KanaVoice.Single

open Float.Model (Format UnpackedFloat)
open Float.Model.UnpackedFloat
open Rounding (ofNat_eq_allOnes_iff)

/-- The sign of a number; a NaN has none. -/
def signOf : UnpackedFloat → Option Sign
  | .notANumber => none
  | .zero s => some s
  | .infinity s => some s
  | .finite s _ _ _ => some s

/-! ## Rounding and packing -/

section

variable {f : Format}

theorem signOf_roundWithAccuracy (s : Sign) (m : Nat) (e : Int) (accuracy : Accuracy) :
    signOf (roundWithAccuracy f s m e accuracy) = some s := by
  simp only [roundWithAccuracy]
  split <;> rfl

theorem signOf_unpack_packComponents {s : Sign} {exponent : BitVec f.exponentBits}
    {mantissa : BitVec f.mantissaBitsWithoutImplicit}
    (number : exponent = -1#f.exponentBits → mantissa = 0#f.mantissaBitsWithoutImplicit) :
    signOf (UnpackedFloat.unpack f (packComponents f s exponent mantissa)) = some s := by
  rw [UnpackedFloat.unpack]
  simp only [unpackMantissa_packComponents, unpackExponent_packComponents,
    unpackSign_packComponents, Sign.ofBitVec_toBitVec]
  split
  case isTrue ones =>
    rw [if_pos (number ones)]
    rfl
  case isFalse =>
    split
    · split <;> rfl
    · rfl

/-- What is too large becomes an infinity of the same sign. -/
theorem signOf_unpack_pack {a : UnpackedFloat} {s : Sign} (signed : signOf a = some s) :
    signOf (UnpackedFloat.unpack f (pack f a)) = some s := by
  cases a with
  | notANumber => cases signed
  | zero t =>
    cases signed
    exact signOf_unpack_packComponents fun _ => rfl
  | infinity t =>
    cases signed
    exact signOf_unpack_packComponents fun _ => rfl
  | finite t m e pos =>
    cases signed
    rw [pack]
    split
    -- An exponent of ones is only packed with a mantissa of zeros, so that the result is no NaN.
    · exact signOf_unpack_packComponents fun _ => rfl
    · split
      · refine signOf_unpack_packComponents fun ones => ?_
        rw [ofNat_eq_allOnes_iff (by omega)] at ones
        omega
      · refine signOf_unpack_packComponents fun ones => ?_
        have some := Nat.one_lt_two_pow f.he.ne'
        rw [ofNat_eq_allOnes_iff (by omega)] at ones
        omega

/-! ## Products -/

theorem mul_eq_notANumber_or_signed (a b : UnpackedFloat) :
    UnpackedFloat.mul f a b = .notANumber ∨ ∃ s t, signOf a = some s ∧ signOf b = some t ∧
      signOf (UnpackedFloat.mul f a b) = some (s * t) := by
  cases a with
  | notANumber => exact .inl rfl
  | zero s =>
    cases b with
    | notANumber => exact .inl rfl
    | infinity t => exact .inl rfl
    | zero t => exact .inr ⟨s, t, rfl, rfl, rfl⟩
    | finite t n d pos => exact .inr ⟨s, t, rfl, rfl, rfl⟩
  | infinity s =>
    cases b with
    | notANumber => exact .inl rfl
    | zero t => exact .inl rfl
    | infinity t => exact .inr ⟨s, t, rfl, rfl, rfl⟩
    | finite t n d pos => exact .inr ⟨s, t, rfl, rfl, rfl⟩
  | finite s m e pos =>
    cases b with
    | notANumber => exact .inl rfl
    | zero t => exact .inr ⟨s, t, rfl, rfl, rfl⟩
    | infinity t => exact .inr ⟨s, t, rfl, rfl, rfl⟩
    | finite t n d pos => exact .inr ⟨s, t, rfl, rfl, signOf_roundWithAccuracy ..⟩

end

/-- A product that is no NaN has the product of the signs. -/
theorem isNaN_mul_or_signed (x y : Float32) :
    (x * y).isNaN = true ∨ ∃ s t, signOf x.toModel.unpack = some s ∧
      signOf y.toModel.unpack = some t ∧ signOf (x * y).toModel.unpack = some (s * t) := by
  rw [isNaN_iff, unpack_mul]
  rcases mul_eq_notANumber_or_signed (f := .binary32) x.toModel.unpack y.toModel.unpack with
    nan | ⟨s, t, left, right, signed⟩
  · exact .inl (by rw [nan]; exact unpack_packedNaN)
  · exact .inr ⟨s, t, left, right, signOf_unpack_pack signed⟩

/-! ## Order -/

section

variable {x y : Float32}

theorem pos_iff : 0 < x ↔ signOf x.toModel.unpack = some .positive ∧ (x == 0) = false := by
  rw [lt_iff, zero_unpacked, ← Bool.not_eq_true, beq_zero_iff]
  cases x.toModel.unpack with
  | notANumber => exact iff_of_false nofun nofun
  | zero s => exact iff_of_false nofun fun h => h.2 ⟨s, rfl⟩
  | infinity s => cases s <;> simp [signOf, UnpackedFloat.lt, UnpackedFloat.compare]
  | finite s m e pos => cases s <;> simp [signOf, UnpackedFloat.lt, UnpackedFloat.compare]

theorem neg_iff : x < 0 ↔ signOf x.toModel.unpack = some .negative ∧ (x == 0) = false := by
  rw [lt_iff, zero_unpacked, ← Bool.not_eq_true, beq_zero_iff]
  cases x.toModel.unpack with
  | notANumber => exact iff_of_false nofun nofun
  | zero s => exact iff_of_false nofun fun h => h.2 ⟨s, rfl⟩
  | infinity s => cases s <;> simp [signOf, UnpackedFloat.lt, UnpackedFloat.compare]
  | finite s m e pos => cases s <;> simp [signOf, UnpackedFloat.lt, UnpackedFloat.compare]

theorem signOf_eq_none_iff : signOf x.toModel.unpack = none ↔ x.isNaN = true := by
  rw [isNaN_iff]
  cases x.toModel.unpack <;> simp [signOf]

/-- What is not positive is zero, negative or a NaN. -/
theorem not_pos_iff : ¬ 0 < x ↔ (x == 0) = true ∨ x < 0 ∨ x.isNaN = true := by
  rw [pos_iff, neg_iff, ← signOf_eq_none_iff]
  rcases signOf x.toModel.unpack with _ | (_ | _) <;> cases x == 0 <;> simp

theorem not_pos_mul (notPositive : ¬ 0 < x) (positive : 0 < y) : ¬ 0 < x * y := by
  rcases isNaN_mul_or_signed x y with nan | ⟨s, t, left, right, signed⟩
  · exact not_pos_of_isNaN nan
  · intro product
    have factor := (pos_iff.1 positive).1
    have sign := (pos_iff.1 product).1
    rw [right] at factor
    rw [signed] at sign
    cases factor
    -- The signs leave no other number than zero, and zero times an infinity is a NaN.
    have zero : (x == 0) = true := by
      by_contra other
      cases s with
      | negative => cases sign
      | positive => exact notPositive (pos_iff.2 ⟨left, Bool.eq_false_of_not_eq_true other⟩)
    by_cases finite : y.isFinite = true
    · exact not_pos_of_zero (mul_zero_of_isFinite zero finite) product
    · exact not_pos_of_isNaN
        (isNaN_mul_of_not_isFinite zero (Bool.eq_false_of_not_eq_true finite)) product

/-- Nothing is counted for what is not positive. -/
theorem toNatRounded_of_not_pos (limit : Nat) (notPositive : ¬ 0 < x) :
    toNatRounded limit x = 0 := by
  have same : Single.unpack x = x.toModel.unpack := rfl
  rw [lt_iff, zero_unpacked] at notPositive
  rw [toNatRounded, same]
  cases h : x.toModel.unpack with
  | notANumber => rfl
  | zero s => rfl
  | infinity s =>
    rw [h] at notPositive
    cases s with
    | negative => rfl
    | positive => exact absurd rfl notPositive
  | finite s m e pos =>
    rw [h] at notPositive
    cases s with
    | negative => rfl
    | positive => exact absurd rfl notPositive

end

end KanaVoice.Single
