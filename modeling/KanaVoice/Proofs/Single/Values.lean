import KanaVoice.Proofs.Single.Packing
import KanaVoice.Proofs.Single.Zero
set_option autoImplicit false

/-!
# Values of single and double precision

The rational number that a finite single-precision or double-precision number stands for.  An
operation on doubles whose exact result lies between two numbers that fit gives a double between
these; widening changes no value, and narrowing keeps to bounds that single precision has.
-/

namespace KanaVoice.Single

open Float.Model (Format UnpackedFloat)
open Float.Model.UnpackedFloat
open Rounding (Stands Fits OnGrid)

/-- The double stands for the rational number. -/
def IsDouble (x : Float) (q : ℚ) : Prop := Stands .binary64 x.toModel.unpack q

/-- The single-precision number stands for the rational number. -/
def IsSingle (x : Float32) (q : ℚ) : Prop := Stands .binary32 x.toModel.unpack q

/-! ## Doubles -/

section

variable {x y : Float} {u v lo hi : ℚ}

theorem IsDouble.add (hx : IsDouble x u) (hy : IsDouble y v) (low : Fits .binary64 lo)
    (high : Fits .binary64 hi) (below : lo ≤ u + v) (above : u + v ≤ hi) :
    ∃ w, IsDouble (x + y) w ∧ lo ≤ w ∧ w ≤ hi :=
  Rounding.exists_stands_pack (by decide) (Rounding.roundsTo_add hx hy).isRounded low high below
    above

theorem IsDouble.sub (hx : IsDouble x u) (hy : IsDouble y v) (low : Fits .binary64 lo)
    (high : Fits .binary64 hi) (below : lo ≤ u - v) (above : u - v ≤ hi) :
    ∃ w, IsDouble (x - y) w ∧ lo ≤ w ∧ w ≤ hi :=
  Rounding.exists_stands_pack (by decide) (Rounding.roundsTo_sub hx hy).isRounded low high below
    above

theorem IsDouble.mul (hx : IsDouble x u) (hy : IsDouble y v) (low : Fits .binary64 lo)
    (high : Fits .binary64 hi) (below : lo ≤ u * v) (above : u * v ≤ hi) :
    ∃ w, IsDouble (x * y) w ∧ lo ≤ w ∧ w ≤ hi :=
  Rounding.exists_stands_pack (by decide) (Rounding.roundsTo_mul hx hy).isRounded low high below
    above

theorem isDouble_one : IsDouble 1 1 := by
  have one : (1 : Float).toModel.unpack = .finite .positive (2 ^ 52) (-52) (by decide) := rfl
  have value : (1 : ℚ) = (Sign.positive.apply (2 ^ 52 : Nat) : Int) * 2 ^ (-52 : Int) := by
    norm_num [Sign.apply]
  rw [IsDouble, one, value]
  exact .finite _ _ _ _ ⟨by decide, by decide, by decide⟩

/-- What fits is the nearest double itself.  The bits are canonicalised once more when they are read,
so that the packed number is packed again. -/
theorem isDouble_nearestDouble {s : Sign} {m : Nat} {e : Int}
    (fits : Fits .binary64 (s.apply m * 2 ^ e)) :
    IsDouble (nearestDouble s m e) (s.apply m * 2 ^ e) := by
  have rounded := (Rounding.roundsTo_round (f := .binary64) s m e).isRounded
  obtain ⟨w, packed, least, most⟩ :=
    Rounding.exists_stands_pack_pack (by decide) rounded fits fits le_rfl le_rfl
  rwa [le_antisymm most least] at packed

end

/-! ## Singles -/

section

variable {x y : Float32} {u v lo hi : ℚ}

theorem isCanonical_of_unpack_eq {s : Sign} {m : Nat} {e : Int} {pos : 0 < m}
    (h : x.toModel.unpack = .finite s m e pos) : Rounding.IsCanonical .binary32 m e := by
  have bits : Format.binary32.mantissaBits = 24 := rfl
  have exponent : Format.binary32.minExponent = -149 := by decide
  have width {k : Nat} : m.log2 < k ↔ m < 2 ^ k := Nat.log2_lt pos.ne'
  have shape := isCanonical_of_unpack_model _ s m e pos h
  unfold IsCanonical at shape
  refine ⟨by omega, ?_, fun later => ?_⟩
  · rw [bits, ← width]
    omega
  · rw [bits, ← Nat.le_log2 pos.ne']
    omega

theorem isSingle_of_unpack_eq {s : Sign} {m : Nat} {e : Int} {pos : 0 < m}
    (h : x.toModel.unpack = .finite s m e pos) : IsSingle x (s.apply m * 2 ^ e) := by
  rw [IsSingle, h]
  exact .finite s m e pos (isCanonical_of_unpack_eq h)

theorem IsSingle.isFinite (hx : IsSingle x u) : x.isFinite = true := by
  show x.toModel.unpack.isFinite = true
  unfold IsSingle at hx
  generalize x.toModel.unpack = a at hx
  cases hx with
  | zero s => rfl
  | finite s m e pos canonical => rfl

theorem IsSingle.lt_iff (hx : IsSingle x u) (hy : IsSingle y v) : x < y ↔ u < v := by
  rw [Single.lt_iff, Rounding.lt_iff_of_stands hx hy]

theorem IsSingle.le_iff (hx : IsSingle x u) (hy : IsSingle y v) : x ≤ y ↔ u ≤ v := by
  have compared : x ≤ y ↔ UnpackedFloat.le x.toModel.unpack y.toModel.unpack = true :=
    decide_eq_true_iff
  rw [compared, Rounding.le_iff_of_stands hx hy]

/-! ## From one to the other -/

/-- What single precision has, double precision has. -/
theorem onGrid_binary64 {q : ℚ} (h : OnGrid .binary32 q) : OnGrid .binary64 q := by
  obtain ⟨m, e, short, least, rfl⟩ := h
  exact ⟨m, e, short.trans (by decide), le_trans (by decide) least, rfl⟩

theorem isDouble_widen (hx : IsSingle x u) (fits : Fits .binary64 u) : IsDouble (widen x) u := by
  have same : unpack x = x.toModel.unpack := rfl
  rw [widen, same]
  unfold IsSingle at hx
  generalize x.toModel.unpack = a at hx
  cases hx with
  | zero s => cases s <;> exact .zero _
  | finite s m e pos canonical => exact isDouble_nearestDouble fits

theorem exists_isSingle_narrow {x : Float} (hx : IsDouble x u) (low : Fits .binary32 lo)
    (high : Fits .binary32 hi) (below : lo ≤ u) (above : u ≤ hi) :
    ∃ w, IsSingle (narrow x) w ∧ lo ≤ w ∧ w ≤ hi := by
  have same : UnpackedFloat.unpack .binary64 x.toBits.toBitVec = x.toModel.unpack := rfl
  rw [narrow, same]
  unfold IsDouble at hx
  generalize x.toModel.unpack = a at hx
  cases hx with
  | zero s =>
    refine ⟨0, ?_, below, above⟩
    cases s <;> exact .zero _
  | finite s m e pos canonical =>
    have rounded := (Rounding.roundsTo_round (f := .binary32) s m e).isRounded
    exact Rounding.exists_stands_pack_pack (by decide) rounded low high below above

end

end KanaVoice.Single
