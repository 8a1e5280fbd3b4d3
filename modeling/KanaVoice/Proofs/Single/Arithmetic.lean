import KanaVoice.Proofs.Single.Rounding
set_option autoImplicit false

/-!
# Sums, products and order of values

Sum, difference and product of numbers of a format are those of the values, rounded.  Numbers are
compared as their values are, since of two positive ones that with the larger exponent is the larger.
-/

namespace KanaVoice.Rounding

open Float.Model (Format UnpackedFloat totalExponent)
open Float.Model.UnpackedFloat

variable {f : Format} {a b : UnpackedFloat} {u v : ℚ}

/-! ## Sums and products -/

theorem stands_neg (ha : Stands f a u) : Stands f a.neg (-u) := by
  cases ha with
  | zero s =>
    rw [neg_zero]
    exact .zero _
  | finite s m e pos canonical =>
    have value : -(((s.apply m : Int) : ℚ) * 2 ^ e) = (-s).apply m * 2 ^ e := by
      rw [apply_neg]
      push_cast
      ring
    rw [value]
    exact .finite _ m e pos canonical

/-- Terms are shifted to the smaller of their exponents, where their sum is exact. -/
theorem roundsTo_add_finite (s t : Sign) (m n : Nat) (e e' : Int) :
    RoundsTo f (s.apply m * 2 ^ e + t.apply n * 2 ^ e')
      (UnpackedFloat.normalize f (s.apply (m <<< (e - min e e').toNat : Nat) +
        t.apply (n <<< (e' - min e e').toNat : Nat)) (min e e') .positive) := by
  have result := roundsTo_normalize (f := f) (s.apply (m <<< (e - min e e').toNat : Nat) +
    t.apply (n <<< (e' - min e e').toNat : Nat)) (min e e') .positive
  rwa [Int.cast_add, add_mul, apply_shiftLeft s m (min_le_left e e'),
    apply_shiftLeft t n (min_le_right e e')] at result

theorem roundsTo_add (ha : Stands f a u) (hb : Stands f b v) :
    RoundsTo f (u + v) (add f a b) := by
  cases ha with
  | zero s =>
    rw [zero_add]
    cases hb with
    | zero t => cases s <;> cases t <;> exact (Stands.zero _).roundsTo
    | finite t m e pos canonical => exact (Stands.finite t m e pos canonical).roundsTo
  | finite s m e pos canonical =>
    cases hb with
    | zero t =>
      rw [add_zero]
      exact (Stands.finite s m e pos canonical).roundsTo
    | finite t n e' pos' canonical' => exact roundsTo_add_finite s t m n e e'

/-- A difference is the sum with the negated number. -/
theorem sub_eq_add (a b : UnpackedFloat) : sub f a b = add f a b.neg := by
  have negated (s t : Sign) (m n : Nat) : s.apply m - t.apply n = s.apply m + (-t).apply n := by
    rw [apply_neg, Int.sub_eq_add_neg]
  cases a <;> cases b <;>
    simp [UnpackedFloat.sub, UnpackedFloat.add, UnpackedFloat.neg, negated]

theorem roundsTo_sub (ha : Stands f a u) (hb : Stands f b v) :
    RoundsTo f (u - v) (sub f a b) := by
  rw [sub_eq_add, sub_eq_add_neg]
  exact roundsTo_add ha (stands_neg hb)

theorem minExponent_nonpos (f : Format) : f.minExponent ≤ 0 := by
  have pos : (0 : Int) < 2 ^ (f.exponentBits - 1) := by positivity
  have bits := mantissaBits_pos f
  rw [Format.minExponent]
  omega

/-- The product of two mantissas has bits enough to be rounded. -/
theorem le_targetExponent_mul {m n : Nat} {e e' : Int} (pos : 0 < m) (pos' : 0 < n)
    (canonical : IsCanonical f m e) (canonical' : IsCanonical f n e') :
    e + e' ≤ f.targetExponent (totalExponent (m * n) (e + e')) := by
  have bits := mantissaBits_pos f
  have exponents := minExponent_nonpos f
  have filled (h : 2 ^ (f.mantissaBits - 1) ≤ m * n) : f.mantissaBits - 1 ≤ (m * n).log2 :=
    (Nat.le_log2 (Nat.mul_pos pos pos').ne').2 h
  rw [Format.targetExponent, totalExponent]
  rcases canonical.least.lt_or_eq with later | least
  · have := filled ((canonical.full later).trans (Nat.le_mul_of_pos_right m pos'))
    omega
  rcases canonical'.least.lt_or_eq with later | least'
  · have := filled ((canonical'.full later).trans (Nat.le_mul_of_pos_left n pos))
    omega
  · omega

theorem roundsTo_mul (ha : Stands f a u) (hb : Stands f b v) :
    RoundsTo f (u * v) (mul f a b) := by
  cases ha with
  | zero s =>
    rw [zero_mul]
    cases hb with
    | zero t => exact (Stands.zero _).roundsTo
    | finite t n e' pos' canonical' => exact (Stands.zero _).roundsTo
  | finite s m e pos canonical =>
    cases hb with
    | zero t =>
      rw [mul_zero]
      exact (Stands.zero _).roundsTo
    | finite t n e' pos' canonical' =>
      have product : ((s.apply m : Int) : ℚ) * 2 ^ e * (t.apply n * 2 ^ e') =
          (s * t).apply (m * n : Nat) * 2 ^ (e + e') := by
        rw [apply_mul, zpow_add₀ two_ne_zero]
        push_cast
        ring
      rw [product]
      exact roundsTo_roundWithAccuracy _ (le_targetExponent_mul pos pos' canonical canonical')

/-! ## Order -/

theorem compare_finite {m n : Nat} {e e' : Int} (canonical : IsCanonical f m e)
    (canonical' : IsCanonical f n e') :
    (compare e e').then (compare m n) = compare ((m : ℚ) * 2 ^ e) (n * 2 ^ e') := by
  have larger {m n : Nat} {e e' : Int} (canonical : IsCanonical f m e)
      (canonical' : IsCanonical f n e') (less : e < e') : (m : ℚ) * 2 ^ e < n * 2 ^ e' := by
    refine (mul_zpow_lt canonical.short less).trans_le ?_
    have full : (2 : ℚ) ^ (f.mantissaBits - 1) ≤ n := by
      exact_mod_cast canonical'.full (canonical.least.trans_lt less)
    gcongr
  rcases lt_trichotomy e e' with less | rfl | greater
  · rw [compare_lt_iff_lt.2 less, compare_lt_iff_lt.2 (larger canonical canonical' less)]
    rfl
  · have scaled {m n : Nat} (less : m < n) : (m : ℚ) * 2 ^ e < n * 2 ^ e := by gcongr
    rw [compare_eq_iff_eq.2 rfl, Ordering.eq_then]
    rcases lt_trichotomy m n with less | rfl | greater
    · rw [compare_lt_iff_lt.2 less, compare_lt_iff_lt.2 (scaled less)]
    · rw [compare_eq_iff_eq.2 rfl, compare_eq_iff_eq.2 rfl]
    · rw [compare_gt_iff_gt.2 greater, compare_gt_iff_gt.2 (scaled greater)]
  · rw [compare_gt_iff_gt.2 greater, compare_gt_iff_gt.2 (larger canonical' canonical greater)]
    rfl

theorem compare_neg (u v : ℚ) : compare (-u) (-v) = (compare u v).swap := by
  rcases lt_trichotomy u v with less | rfl | greater
  · rw [compare_lt_iff_lt.2 less, compare_gt_iff_gt.2 (neg_lt_neg less)]
    rfl
  · rw [compare_eq_iff_eq.2 rfl, compare_eq_iff_eq.2 rfl]
    rfl
  · rw [compare_gt_iff_gt.2 greater, compare_lt_iff_lt.2 (neg_lt_neg greater)]
    rfl

/-- Numbers of a format are compared by their values. -/
theorem compare_of_stands (ha : Stands f a u) (hb : Stands f b v) :
    UnpackedFloat.compare a b = some (compare u v) := by
  have value_pos {m : Nat} (e : Int) (pos : 0 < m) : (0 : ℚ) < m * 2 ^ e := by positivity
  cases ha with
  | zero s =>
    cases hb with
    | zero t =>
      rw [compare_eq_iff_eq.2 rfl]
      rfl
    | finite t n e' pos' canonical' =>
      have other := value_pos e' pos'
      cases t with
      | positive =>
        rw [positive_apply, compare_lt_iff_lt.2 other]
        rfl
      | negative =>
        rw [negative_apply, compare_gt_iff_gt.2 (neg_lt_zero.2 other)]
        rfl
  | finite s m e pos canonical =>
    have one := value_pos e pos
    cases hb with
    | zero t =>
      cases s with
      | positive =>
        rw [positive_apply, compare_gt_iff_gt.2 one]
        rfl
      | negative =>
        rw [negative_apply, compare_lt_iff_lt.2 (neg_lt_zero.2 one)]
        rfl
    | finite t n e' pos' canonical' =>
      have other := value_pos e' pos'
      cases s with
      | positive =>
        cases t with
        | positive =>
          rw [positive_apply, positive_apply, ← compare_finite canonical canonical']
          rfl
        | negative =>
          rw [positive_apply, negative_apply, compare_gt_iff_gt.2 (by linarith)]
          rfl
      | negative =>
        cases t with
        | positive =>
          rw [negative_apply, positive_apply, compare_lt_iff_lt.2 (by linarith)]
          rfl
        | negative =>
          rw [negative_apply, negative_apply, compare_neg, ← compare_finite canonical canonical']
          rfl

theorem le_iff_of_stands (ha : Stands f a u) (hb : Stands f b v) :
    UnpackedFloat.le a b = true ↔ u ≤ v := by
  rw [UnpackedFloat.le, compare_of_stands ha hb, Option.any_some, Ordering.isLE_iff_ne_gt]
  exact compare_le_iff_le

theorem lt_iff_of_stands (ha : Stands f a u) (hb : Stands f b v) :
    UnpackedFloat.lt a b = true ↔ u < v := by
  rw [UnpackedFloat.lt, compare_of_stands ha hb, beq_iff_eq, Option.some.injEq,
    compare_lt_iff_lt]

end KanaVoice.Rounding
