import KanaVoice.Proofs.Single.Sign
import KanaVoice.Proofs.Single.Values
set_option autoImplicit false

/-!
# Order of products and counts

Of two numbers that are no NaN one is at most the other.  A positive finite factor keeps the order of
numbers, infinities included: rounding to the nearest number keeps it, and what is too large to be
packed becomes an infinity on its side.  A larger number is counted for at least as much, and only an
infinity is counted for all that can be counted.
-/

namespace KanaVoice

open Float.Model (Format UnpackedFloat)
open Float.Model.UnpackedFloat

namespace Rounding

/-! ## Comparison -/

theorem compare_swap_finite (m n : Nat) (e e' : Int) :
    (compare e e').then (compare m n) = ((compare e' e).then (compare n m)).swap := by
  rw [Ordering.swap_then, Std.OrientedOrd.eq_swap (a := e), Std.OrientedOrd.eq_swap (a := m)]

/-- Compared the other way round, the result is the other one. -/
theorem compare_swap (a b : UnpackedFloat) :
    UnpackedFloat.compare a b = (UnpackedFloat.compare b a).map Ordering.swap := by
  cases a with
  | notANumber => cases b <;> rfl
  | infinity s =>
    cases b with
    | infinity t => cases s <;> cases t <;> rfl
    | _ => cases s <;> rfl
  | zero s =>
    cases b with
    | notANumber => rfl
    | zero t => rfl
    | infinity t => cases t <;> rfl
    | finite t n e' pos' => cases t <;> rfl
  | finite s m e pos =>
    cases b with
    | notANumber => rfl
    | zero t => cases s <;> rfl
    | infinity t => cases t <;> cases s <;> rfl
    | finite t n e' pos' =>
      have swapped := compare_swap_finite m n e e'
      cases s with
      | negative =>
        cases t with
        | negative => exact congrArg (some ·.swap) swapped
        | positive => rfl
      | positive =>
        cases t with
        | negative => rfl
        | positive => exact congrArg some swapped
theorem exists_compare {a b : UnpackedFloat} (number : a ≠ .notANumber)
    (number' : b ≠ .notANumber) : ∃ o, UnpackedFloat.compare a b = some o := by
  fun_cases UnpackedFloat.compare a b
  case case1 => exact absurd rfl number
  case case2 => exact absurd rfl number'
  all_goals exact ⟨_, rfl⟩

/-! ## Rounded products -/

variable {f : Format} {a b c : UnpackedFloat} {u v r : ℚ}

theorem IsNearest.eq_of_onGrid {q w : ℚ} (h : IsNearest f q w) (grid : OnGrid f q) : w = q := by
  have near := h q grid
  rw [sub_self, abs_zero] at near
  exact (sub_eq_zero.1 (abs_nonpos_iff.1 near)).symm

/-- A value other than zero is that of one number only. -/
theorem eq_of_stands (ha : Stands f a u) (hb : Stands f b v) (same : u = v) (nonzero : u ≠ 0) :
    a = b := by
  have equal : UnpackedFloat.beq a b = true := by
    rw [UnpackedFloat.beq, compare_of_stands ha hb, compare_eq_iff_eq.2 same]
    rfl
  rcases ((beq_iff_ne_notANumber_and_eq a b).1 equal).2.2 with same | ⟨rfl, -⟩ | ⟨rfl, -⟩
  · exact same
  · cases ha
    exact absurd rfl nonzero
  · cases ha
    exact absurd rfl nonzero

/-- A factor that is not negative keeps the order of values, rounded. -/
theorem exists_stands_mul_le (ha : Stands f a u) (hb : Stands f b v) (hc : Stands f c r)
    (nonneg : 0 ≤ r) (le : u ≤ v) :
    ∃ w w', Stands f (mul f a c) w ∧ Stands f (mul f b c) w' ∧ w ≤ w' := by
  obtain ⟨w, value, near⟩ := roundsTo_mul ha hc
  obtain ⟨w', value', near'⟩ := roundsTo_mul hb hc
  rcases (mul_le_mul_of_nonneg_right le nonneg).lt_or_eq with less | same
  · exact ⟨w, w', value, value', near.mono near' value.onGrid value'.onGrid less⟩
  -- Equal products other than zero come from one number, since a tie could go either way.
  by_cases zero : u * r = 0
  · have grid : OnGrid f 0 := (Stands.zero .positive).onGrid
    have exact : w = 0 := zero ▸ near.eq_of_onGrid (zero.symm ▸ grid)
    have zero' : v * r = 0 := same ▸ zero
    have exact' : w' = 0 := zero' ▸ near'.eq_of_onGrid (zero'.symm ▸ grid)
    exact ⟨w, w', value, value', by rw [exact, exact']⟩
  · have one : u = v := mul_right_cancel₀ (right_ne_zero_of_mul zero) same
    rw [← eq_of_stands ha hb one (left_ne_zero_of_mul zero)]
    exact ⟨w, w, value, value, le_rfl⟩

end Rounding

namespace Single

variable {x y c : Float32}

/-! ## Kinds of numbers -/

/-- A number is a NaN, an infinity, or it stands for a rational number. -/
theorem unpack_cases (x : Float32) :
    x.toModel.unpack = .notANumber ∨ (∃ s, x.toModel.unpack = .infinity s) ∨ ∃ u, IsSingle x u := by
  cases h : x.toModel.unpack with
  | notANumber => exact .inl rfl
  | infinity s => exact .inr (.inl ⟨s, rfl⟩)
  | zero s => exact .inr (.inr ⟨0, by rw [IsSingle, h]; exact .zero s⟩)
  | finite s m e pos => exact .inr (.inr ⟨_, isSingle_of_unpack_eq h⟩)

theorem exists_unpack_of_pos (pos : 0 < c) (finite : c.isFinite = true) :
    ∃ m e isPos, c.toModel.unpack = .finite .positive m e isPos := by
  have sign := (pos_iff.1 pos).1
  have nonzero := (pos_iff.1 pos).2
  have finite : c.toModel.unpack.isFinite = true := finite
  cases h : c.toModel.unpack with
  | notANumber => rw [h] at sign; cases sign
  | infinity s => rw [h] at finite; cases finite
  | zero s =>
    rw [beq_zero_iff.2 ⟨s, h⟩] at nonzero
    cases nonzero
  | finite s m e isPos =>
    rw [h] at sign
    cases sign
    exact ⟨m, e, isPos, rfl⟩

theorem le_of_not_lt (number : x.isNaN = false) (number' : y.isNaN = false) (h : ¬ y < x) :
    x ≤ y := by
  rw [← Bool.not_eq_true, isNaN_iff] at number number'
  obtain ⟨order, compared⟩ := Rounding.exists_compare number' number
  rw [lt_iff, UnpackedFloat.lt, compared] at h
  rw [le_iff, UnpackedFloat.le, Rounding.compare_swap, compared]
  cases order with
  | lt => exact absurd rfl h
  | eq => rfl
  | gt => rfl

theorem not_lt_of_le (le : x ≤ y) : ¬ y < x := by
  rw [le_iff, UnpackedFloat.le] at le
  rw [lt_iff, UnpackedFloat.lt, Rounding.compare_swap]
  cases compared : UnpackedFloat.compare x.toModel.unpack y.toModel.unpack with
  | none => rw [compared] at le; cases le
  | some order =>
    rw [compared] at le
    intro less
    cases order with
    | lt => cases less
    | eq => cases less
    | gt => cases le

theorem isNaN_of_le (le : x ≤ y) : x.isNaN = false ∧ y.isNaN = false := by
  rw [← Bool.not_eq_true, isNaN_iff, ← Bool.not_eq_true, isNaN_iff]
  exact Rounding.ne_notANumber_of_le (le_iff.1 le)

protected theorem le_trans {z : Float32} (le : x ≤ y) (le' : y ≤ z) : x ≤ z := by
  have bound := le_iff.1 le
  have bound' := le_iff.1 le'
  obtain ⟨number, between⟩ := Rounding.ne_notANumber_of_le bound
  have number' := (Rounding.ne_notANumber_of_le bound').2
  rw [le_iff]
  -- An infinity in the middle is one at an end as well.
  rcases unpack_cases y with nan | ⟨s, infinite⟩ | ⟨v, hy⟩
  · exact absurd nan between
  · rw [infinite] at bound bound'
    cases s with
    | negative =>
      rw [Rounding.eq_infinity_of_ge bound]
      exact Rounding.infinity_negative_le number'
    | positive =>
      rw [Rounding.eq_infinity_of_le bound']
      exact Rounding.le_infinity_positive number
  rcases unpack_cases x with nan | ⟨s, infinite⟩ | ⟨u, hx⟩
  · exact absurd nan number
  · cases s with
    | negative =>
      rw [infinite]
      exact Rounding.infinity_negative_le number'
    | positive =>
      rw [infinite] at bound
      rw [Rounding.eq_infinity_of_le bound] at bound'
      rw [Rounding.eq_infinity_of_le bound']
      exact Rounding.le_infinity_positive number
  rcases unpack_cases z with nan | ⟨s, infinite⟩ | ⟨w, hz⟩
  · exact absurd nan number'
  · cases s with
    | positive =>
      rw [infinite]
      exact Rounding.le_infinity_positive number
    | negative =>
      rw [infinite] at bound'
      rw [Rounding.eq_infinity_of_ge bound'] at bound
      rw [Rounding.eq_infinity_of_ge bound]
      exact Rounding.infinity_negative_le number'
  · exact le_iff.1 ((hx.le_iff hz).2 (((hx.le_iff hy).1 le).trans ((hy.le_iff hz).1 le')))

/-! ## Products -/

section

variable (pos : 0 < c) (finite : c.isFinite = true)

include pos finite

theorem unpack_mul_of_infinity {s : Sign} (infinite : x.toModel.unpack = .infinity s) :
    (x * c).toModel.unpack = .infinity s := by
  obtain ⟨m, e, isPos, factor⟩ := exists_unpack_of_pos pos finite
  have product : UnpackedFloat.mul .binary32 (.infinity s) (.finite .positive m e isPos) =
      .infinity (s * .positive) := rfl
  rw [unpack_mul, infinite, factor, product, mul_positive]
  exact Rounding.unpack_packedInfinity s

theorem isSingle_of_pos : ∃ r, IsSingle c r ∧ 0 ≤ r := by
  obtain ⟨m, e, isPos, factor⟩ := exists_unpack_of_pos pos finite
  refine ⟨_, isSingle_of_unpack_eq factor, ?_⟩
  rw [Rounding.positive_apply]
  positivity

theorem unpack_mul_ne_notANumber (number : x.toModel.unpack ≠ .notANumber) :
    (x * c).toModel.unpack ≠ .notANumber := by
  rcases unpack_cases x with nan | ⟨s, infinite⟩ | ⟨u, hx⟩
  · exact absurd nan number
  · rw [unpack_mul_of_infinity pos finite infinite]
    nofun
  · obtain ⟨r, hc, -⟩ := isSingle_of_pos pos finite
    obtain ⟨w, product, -⟩ := Rounding.roundsTo_mul hx hc
    exact Rounding.unpack_pack_ne_notANumber (by decide) product

/-- A positive finite factor keeps the order. -/
theorem mul_le_mul_right (le : x ≤ y) : x * c ≤ y * c := by
  have bound := le_iff.1 le
  obtain ⟨number, number'⟩ := Rounding.ne_notANumber_of_le bound
  rw [le_iff]
  -- An infinite product is a bound by itself; only for two values is anything rounded.
  rcases unpack_cases x with nan | ⟨s, infinite⟩ | ⟨u, hx⟩
  · exact absurd nan number
  · cases s with
    | negative =>
      rw [unpack_mul_of_infinity pos finite infinite]
      exact Rounding.infinity_negative_le (unpack_mul_ne_notANumber pos finite number')
    | positive =>
      rw [infinite] at bound
      rw [unpack_mul_of_infinity pos finite (Rounding.eq_infinity_of_le bound)]
      exact Rounding.le_infinity_positive (unpack_mul_ne_notANumber pos finite number)
  rcases unpack_cases y with nan | ⟨s, infinite⟩ | ⟨v, hy⟩
  · exact absurd nan number'
  · cases s with
    | negative =>
      rw [infinite] at bound
      rw [unpack_mul_of_infinity pos finite (Rounding.eq_infinity_of_ge bound)]
      exact Rounding.infinity_negative_le (unpack_mul_ne_notANumber pos finite number')
    | positive =>
      rw [unpack_mul_of_infinity pos finite infinite]
      exact Rounding.le_infinity_positive (unpack_mul_ne_notANumber pos finite number)
  · obtain ⟨r, hc, nonneg⟩ := isSingle_of_pos pos finite
    obtain ⟨w, w', value, value', order⟩ :=
      Rounding.exists_stands_mul_le hx hy hc nonneg ((hx.le_iff hy).1 le)
    exact Rounding.le_unpack_pack (by decide) value value' order

end

/-! ## Counts -/

/-- What a number is counted for when there is no limit: the nearest integer, nothing for what is
not positive, and no end for an infinity. -/
def count (x : Float32) : ℕ∞ :=
  match x.toModel.unpack with
  | .finite .positive m e _ => roundHalfUp m e
  | .infinity .positive => ⊤
  | _ => 0

theorem toNatRounded_eq_min (limit : Nat) (x : Float32) :
    (toNatRounded limit x : ℕ∞) = min (count x) limit := by
  have same : Single.unpack x = x.toModel.unpack := rfl
  have nothing : ((0 : Nat) : ℕ∞) = min 0 (limit : ℕ∞) := (min_eq_left zero_le).symm
  rw [toNatRounded, count, same]
  cases x.toModel.unpack with
  | notANumber => exact nothing
  | zero s => exact nothing
  | infinity s =>
    cases s with
    | negative => exact nothing
    | positive => exact (min_eq_right le_top).symm
  | finite s m e pos =>
    cases s with
    | negative => exact nothing
    | positive => exact Nat.mono_cast.map_min

/-- What is counted for no more than any limit is counted in full. -/
theorem exists_toNatRounded_eq {n : Nat} (most : count x ≤ n) :
    ∃ k ≤ n, ∀ limit, n ≤ limit → toNatRounded limit x = k := by
  obtain ⟨k, counted, few⟩ := ENat.le_natCast_iff.1 most
  refine ⟨k, few, fun limit enough => ?_⟩
  have bounded := toNatRounded_eq_min limit x
  rw [counted, min_eq_left (Nat.cast_le.2 (few.trans enough))] at bounded
  exact_mod_cast bounded

/-- What is counted below a limit is counted in full. -/
theorem count_eq_of_lt {limit : Nat} (below : toNatRounded limit x < limit) :
    count x = toNatRounded limit x := by
  have bounded := toNatRounded_eq_min limit x
  rcases min_choice (count x) limit with same | same
  · rw [bounded, same]
  · rw [same] at bounded
    exact absurd (by exact_mod_cast bounded) below.ne

theorem count_of_not_pos (notPositive : ¬ 0 < x) : count x = 0 := by
  have nothing : toNatRounded 1 x = 0 := toNatRounded_of_not_pos _ notPositive
  rw [count_eq_of_lt (nothing.trans_lt one_pos), nothing, Nat.cast_zero]

/-- The nearest integer is the whole part of one half more. -/
theorem roundHalfUp_eq_floor (m : Nat) (e : Int) :
    roundHalfUp m e = ⌊(m : ℚ) * 2 ^ e + 1 / 2⌋₊ := by
  cases e with
  | ofNat k =>
    have whole : (m : ℚ) * 2 ^ Int.ofNat k = (m * 2 ^ k : Nat) := by
      rw [Int.ofNat_eq_natCast, zpow_natCast]
      push_cast
      rfl
    rw [roundHalfUp, whole, eq_comm, Nat.floor_eq_iff (by positivity)]
    constructor
    · norm_num
    · norm_num
  | negSucc k =>
    have part : (m : ℚ) * 2 ^ Int.negSucc k + 1 / 2 = (m + 2 ^ k : Nat) / (2 ^ (k + 1) : Nat) := by
      rw [zpow_negSucc]
      push_cast
      field_simp
      ring
    rw [roundHalfUp, part, Nat.floor_div_eq_div]
    rfl

theorem roundHalfUp_le {m n : Nat} {e e' : Int} (le : (m : ℚ) * 2 ^ e ≤ n * 2 ^ e') :
    roundHalfUp m e ≤ roundHalfUp n e' := by
  rw [roundHalfUp_eq_floor, roundHalfUp_eq_floor]
  exact Nat.floor_le_floor (by linarith)

/-- A larger number is counted for at least as much. -/
theorem count_mono (le : x ≤ y) : count x ≤ count y := by
  have bound := le_iff.1 le
  unfold count
  cases one : x.toModel.unpack with
  | notANumber => exact zero_le
  | zero s => exact zero_le
  | infinity s =>
    cases s with
    | negative => exact zero_le
    | positive =>
      rw [one] at bound
      rw [Rounding.eq_infinity_of_le bound]
  | finite s m e pos =>
    cases s with
    | negative => exact zero_le
    | positive =>
      cases other : y.toModel.unpack with
      | notANumber => rw [one, other] at bound; cases bound
      | zero t => rw [one, other] at bound; cases bound
      | infinity t =>
        cases t with
        | negative => rw [one, other] at bound; cases bound
        | positive => exact le_top
      | finite t n e' pos' =>
        cases t with
        | negative => rw [one, other] at bound; cases bound
        | positive =>
          have values :=
            ((isSingle_of_unpack_eq one).le_iff (isSingle_of_unpack_eq other)).1 le
          rw [Rounding.positive_apply, Rounding.positive_apply] at values
          exact Nat.cast_le.2 (roundHalfUp_le values)

theorem toNatRounded_mono (limit : Nat) (le : x ≤ y) :
    toNatRounded limit x ≤ toNatRounded limit y := by
  have bound : (toNatRounded limit x : ℕ∞) ≤ toNatRounded limit y := by
    rw [toNatRounded_eq_min, toNatRounded_eq_min]
    exact min_le_min_right _ (count_mono le)
  exact_mod_cast bound

/-- A number that is not larger than another one, or a NaN, is not counted for more. -/
theorem count_mul_le (most : Float32) {c : Float32} {n : Nat} (number : most.isNaN = false) (pos : 0 < c)
    (finite : c.isFinite = true) (bounded : ¬ most < x) (enough : count (most * c) ≤ n) :
    count (x * c) ≤ n := by
  cases nan : x.isNaN with
  | true =>
    rw [count_of_not_pos (not_pos_mul (not_pos_of_isNaN nan) pos)]
    exact zero_le
  | false =>
    exact (count_mono (mul_le_mul_right pos finite (le_of_not_lt nan number bounded))).trans enough

end Single

end KanaVoice
