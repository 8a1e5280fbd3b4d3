import KanaVoice.Proofs.Single.Unit
set_option autoImplicit false

/-!
# Zero in products

A product of zero with a finite number is zero, of one sign or the other; with an infinity or with a
NaN it is a NaN.  Neither a zero nor a NaN is positive.
-/

namespace KanaVoice.Single

open Float.Model (UnpackedFloat)
open Float.Model.UnpackedFloat

/-! ## Zeros -/

theorem zero_unpacked : (0 : Float32).toModel.unpack = .zero .positive := rfl

/-- What compares equal to zero is zero with one sign or the other. -/
theorem beq_zero_iff {x : Float32} : (x == 0) = true ↔ ∃ s, x.toModel.unpack = .zero s := by
  have compared : (x == 0) = UnpackedFloat.beq x.toModel.unpack (.zero .positive) := rfl
  rw [compared]
  cases x.toModel.unpack with
  | notANumber => exact iff_of_false nofun nofun
  | zero s => exact iff_of_true rfl ⟨s, rfl⟩
  | infinity s => cases s <;> exact iff_of_false nofun nofun
  | finite s m e pos => cases s <;> exact iff_of_false nofun nofun

theorem isNaN_iff {x : Float32} : x.isNaN = true ↔ x.toModel.unpack = .notANumber :=
  UnpackedFloat.isNaN_iff

theorem isNaN_of_zero {x : Float32} (zero : (x == 0) = true) : x.isNaN = false := by
  obtain ⟨s, isZero⟩ := beq_zero_iff.1 zero
  rw [← Bool.not_eq_true, isNaN_iff, isZero]
  exact nofun

/-! ## Products -/

theorem unpack_mul (x y : Float32) :
    (x * y).toModel.unpack =
      (Float32.Model.pack (UnpackedFloat.mul .binary32 x.toModel.unpack y.toModel.unpack)).unpack :=
  rfl

theorem mul_zero_of_isFinite {x y : Float32} (zero : (x == 0) = true) (finite : y.isFinite = true) :
    (x * y == 0) = true := by
  obtain ⟨s, isZero⟩ := beq_zero_iff.1 zero
  have finite : y.toModel.unpack.isFinite = true := finite
  rw [beq_zero_iff, unpack_mul, isZero]
  cases h : y.toModel.unpack with
  | notANumber => rw [h] at finite; cases finite
  | infinity t => rw [h] at finite; cases finite
  | zero t => exact ⟨s * t, unpack_packedZero⟩
  | finite t m e pos => exact ⟨s * t, unpack_packedZero⟩

theorem isNaN_mul_of_not_isFinite {x y : Float32} (zero : (x == 0) = true)
    (infinite : y.isFinite = false) : (x * y).isNaN = true := by
  obtain ⟨s, isZero⟩ := beq_zero_iff.1 zero
  have infinite : y.toModel.unpack.isFinite = false := infinite
  rw [isNaN_iff, unpack_mul, isZero]
  cases h : y.toModel.unpack with
  | notANumber => exact unpack_packedNaN
  | infinity t => exact unpack_packedNaN
  | zero t => rw [h] at infinite; cases infinite
  | finite t m e pos => rw [h] at infinite; cases infinite

theorem isNaN_mul {x : Float32} (nan : x.isNaN = true) (y : Float32) : (x * y).isNaN = true := by
  rw [isNaN_iff, unpack_mul, isNaN_iff.1 nan]
  exact unpack_packedNaN

/-- A factor of zero leaves zero or no number. -/
theorem mul_zero_or_isNaN (x : Float32) {y : Float32} (zero : (y == 0) = true) :
    (x * y == 0) = true ∨ (x * y).isNaN = true := by
  obtain ⟨t, isZero⟩ := beq_zero_iff.1 zero
  rw [beq_zero_iff, isNaN_iff, unpack_mul, isZero]
  cases x.toModel.unpack with
  | notANumber => exact .inr unpack_packedNaN
  | infinity s => exact .inr unpack_packedNaN
  | zero s => exact .inl ⟨s * t, unpack_packedZero⟩
  | finite s m e pos => exact .inl ⟨s * t, unpack_packedZero⟩

/-! ## Order -/

theorem lt_iff {x y : Float32} :
    x < y ↔ UnpackedFloat.lt x.toModel.unpack y.toModel.unpack = true :=
  decide_eq_true_iff

theorem le_iff {x y : Float32} :
    x ≤ y ↔ UnpackedFloat.le x.toModel.unpack y.toModel.unpack = true :=
  decide_eq_true_iff

theorem le_of_lt {x y : Float32} (h : x < y) : x ≤ y := by
  rw [lt_iff, UnpackedFloat.lt, beq_iff_eq] at h
  rw [le_iff, UnpackedFloat.le, h]
  rfl

theorem not_pos_of_zero {x : Float32} (zero : (x == 0) = true) : ¬ 0 < x := by
  obtain ⟨s, isZero⟩ := beq_zero_iff.1 zero
  rw [lt_iff, zero_unpacked, isZero]
  exact nofun

theorem not_pos_of_isNaN {x : Float32} (nan : x.isNaN = true) : ¬ 0 < x := by
  rw [lt_iff, zero_unpacked, isNaN_iff.1 nan]
  exact nofun

end KanaVoice.Single
