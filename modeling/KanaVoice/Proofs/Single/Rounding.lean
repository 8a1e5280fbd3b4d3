import KanaVoice.Proofs.Single.Unit
set_option autoImplicit false

/-!
# Rounding to a format

A number of a format stands for a rational number: a mantissa of limited size times a power of two
that is not below the least one.  A result is rounded to the nearest of these.  So rounding keeps the
order of results, and none of the numbers lies strictly between the exact result and the rounded
one: every bound of the exact result that the format has is a bound of the rounded one.
-/

namespace KanaVoice.Rounding

open Float.Model (Format UnpackedFloat totalExponent)
open Float.Model.UnpackedFloat

variable {f : Format}

/-! ## Values -/

/-- The mantissa is within its bits and fills them, unless the exponent is the least one. -/
structure IsCanonical (f : Format) (m : Nat) (e : Int) : Prop where
  least : f.minExponent ≤ e
  short : m < 2 ^ f.mantissaBits
  full : f.minExponent < e → 2 ^ (f.mantissaBits - 1) ≤ m

/-- A number as the format has it, and the rational number that it stands for. -/
inductive Stands (f : Format) : UnpackedFloat → ℚ → Prop
  | zero (s : Sign) : Stands f (.zero s) 0
  | finite (s : Sign) (m : Nat) (e : Int) (pos : 0 < m) (canonical : IsCanonical f m e) :
      Stands f (.finite s m e pos) (s.apply m * 2 ^ e)

/-- The rational numbers that the format has, however large. -/
def OnGrid (f : Format) (q : ℚ) : Prop :=
  ∃ (m : ℤ) (e : ℤ), |m| < 2 ^ f.mantissaBits ∧ f.minExponent ≤ e ∧ q = m * 2 ^ e

theorem Stands.onGrid {a : UnpackedFloat} {u : ℚ} (ha : Stands f a u) : OnGrid f u := by
  cases ha with
  | zero s => exact ⟨0, f.minExponent, by rw [abs_zero]; positivity, le_rfl, by simp⟩
  | finite s m e pos canonical =>
    have short : |(m : Int)| < 2 ^ f.mantissaBits := by
      rw [Nat.abs_cast]
      exact_mod_cast canonical.short
    refine ⟨s.apply m, e, ?_, canonical.least, rfl⟩
    cases s with
    | positive => exact short
    | negative => rwa [Sign.apply, abs_neg]

/-- Nothing that the format has lies strictly between a number and what it is rounded to. -/
def IsRounding (f : Format) (q w : ℚ) : Prop :=
  ∀ b, OnGrid f b → (b ≤ q → b ≤ w) ∧ (q ≤ b → w ≤ b)

/-- The number of the format is the rational number rounded. -/
def IsRounded (f : Format) (q : ℚ) (a : UnpackedFloat) : Prop :=
  ∃ w, Stands f a w ∧ IsRounding f q w

/-- Nothing that the format has is nearer to a number than what it is rounded to. -/
def IsNearest (f : Format) (q w : ℚ) : Prop :=
  ∀ b, OnGrid f b → |q - w| ≤ |q - b|

/-- The number of the format is the one that the rational number is rounded to. -/
def RoundsTo (f : Format) (q : ℚ) (a : UnpackedFloat) : Prop :=
  ∃ w, Stands f a w ∧ IsNearest f q w

theorem OnGrid.neg {q : ℚ} (h : OnGrid f q) : OnGrid f (-q) := by
  obtain ⟨m, e, short, least, rfl⟩ := h
  exact ⟨-m, e, by rwa [abs_neg], least, by push_cast; ring⟩

theorem isNearest_self (q : ℚ) : IsNearest f q q := by
  intro b _
  rw [sub_self, abs_zero]
  exact abs_nonneg _

namespace IsNearest

variable {q q' w w' : ℚ}

theorem neg (h : IsNearest f q w) : IsNearest f (-q) (-w) := by
  intro b grid
  have one : -q - -w = -(q - w) := by ring
  have other : -q - b = -(q - -b) := by ring
  rw [one, other, abs_neg, abs_neg]
  exact h (-b) grid.neg

/-- Between a number and the nearest one there is none of the format. -/
theorem isRounding (h : IsNearest f q w) : IsRounding f q w := by
  intro b grid
  have near := h b grid
  constructor
  · intro below
    by_contra farther
    rw [abs_of_nonneg (by linarith), abs_of_nonneg (by linarith)] at near
    linarith
  · intro above
    by_contra farther
    rw [abs_of_nonpos (by linarith), abs_of_nonpos (by linarith)] at near
    linarith

/-- A smaller number is not rounded to a larger one. -/
theorem mono (h : IsNearest f q w) (h' : IsNearest f q' w') (grid : OnGrid f w)
    (grid' : OnGrid f w') (less : q < q') : w ≤ w' := by
  by_contra greater
  -- Either is as near to its own as to the other's, so neither has passed the midpoint of these.
  have near := h w' grid'
  have near' := h' w grid
  have above : w + w' ≤ 2 * q := by
    rcases abs_cases (q - w) with ⟨one, _⟩ | ⟨one, _⟩ <;>
      rcases abs_cases (q - w') with ⟨other, _⟩ | ⟨other, _⟩ <;> linarith
  have below : 2 * q' ≤ w + w' := by
    rcases abs_cases (q' - w) with ⟨one, _⟩ | ⟨one, _⟩ <;>
      rcases abs_cases (q' - w') with ⟨other, _⟩ | ⟨other, _⟩ <;> linarith
  linarith

end IsNearest

theorem Stands.roundsTo {a : UnpackedFloat} {u : ℚ} (ha : Stands f a u) : RoundsTo f u a :=
  ⟨u, ha, isNearest_self u⟩

theorem RoundsTo.isRounded {q : ℚ} {a : UnpackedFloat} (h : RoundsTo f q a) : IsRounded f q a := by
  obtain ⟨w, value, near⟩ := h
  exact ⟨w, value, near.isRounding⟩

/-! ## Shifting and rounding -/

/-- The mantissa is `m` in units of `2^k`: its round bit is a half, and there is a rest below that,
which a clear sticky bit denies. -/
def Holds (x : ExtendedMantissa) (m k : Nat) : Prop :=
  ∃ rest, 2 * m = 2 ^ k * (2 * x.mantissa + x.roundBit.toNat) + rest ∧ rest < 2 ^ k ∧
    (x.stickyBit = false → rest = 0)

theorem Holds.shiftRightOne {x : ExtendedMantissa} {m k : Nat} (h : Holds x m k) :
    Holds x.shiftRightOne m (k + 1) := by
  obtain ⟨rest, parts, small, exact⟩ := h
  obtain ⟨mantissa, round, sticky⟩ := x
  have halves : 2 * (mantissa / 2) + (mantissa % 2 != 0).toNat = mantissa := by
    rcases Nat.mod_two_eq_zero_or_one mantissa with even | odd
    · simp [even]
      omega
    · simp [odd]
      omega
  refine ⟨2 ^ k * round.toNat + rest, ?_, ?_, ?_⟩
  · show 2 * m = 2 ^ (k + 1) * (2 * (mantissa / 2) + (mantissa % 2 != 0).toNat) + _
    rw [halves, parts, Nat.pow_succ]
    ring
  · rw [Nat.pow_succ]
    cases round <;> simp <;> omega
  · simp only [ExtendedMantissa.shiftRightOne, Bool.or_eq_false_iff]
    rintro ⟨rfl, clear⟩
    simp [exact clear]

theorem holds_shiftRight (m k : Nat) : Holds ((⟨m, false, false⟩ : ExtendedMantissa) >>> k) m k := by
  show Holds (k.repeat ExtendedMantissa.shiftRightOne _) m k
  induction k with
  | zero => exact ⟨0, by simp [Nat.repeat], Nat.one_pos, fun _ => rfl⟩
  | succ k ih => exact ih.shiftRightOne

theorem roundedMantissa_of_clear (m : Nat) (sticky : Bool) :
    (⟨m, false, sticky⟩ : ExtendedMantissa).roundedMantissa = m := by
  cases sticky <;> rfl

/-- The rounded mantissa is at most half a unit away. -/
theorem Holds.near {x : ExtendedMantissa} {m k : Nat} (h : Holds x m k) :
    2 * (x.roundedMantissa * 2 ^ k) ≤ 2 * m + 2 ^ k ∧
      2 * m ≤ 2 * (x.roundedMantissa * 2 ^ k) + 2 ^ k := by
  obtain ⟨rest, parts, small, exact⟩ := h
  obtain ⟨mantissa, round, sticky⟩ := x
  generalize 2 ^ k = unit at *
  rw [parts]
  cases round with
  | false =>
    have low : unit * (2 * mantissa + false.toNat) = 2 * (mantissa * unit) := by
      rw [Bool.toNat_false]
      ring
    simp only [roundedMantissa_of_clear, low]
    omega
  | true =>
    have low : unit * (2 * mantissa + true.toNat) = 2 * (mantissa * unit) + unit := by
      rw [Bool.toNat_true]
      ring
    have up : (mantissa + 1) * unit = mantissa * unit + unit := Nat.succ_mul _ _
    cases sticky with
    | true =>
      have rounded : (⟨mantissa, true, true⟩ : ExtendedMantissa).roundedMantissa = mantissa + 1 := rfl
      simp only [rounded, low, up]
      omega
    | false =>
      -- A tie goes to the even mantissa, which is half a unit away either way.
      have rounded : (⟨mantissa, true, false⟩ : ExtendedMantissa).roundedMantissa =
        mantissa + mantissa % 2 := rfl
      simp only [rounded, low, exact rfl]
      rcases Nat.mod_two_eq_zero_or_one mantissa with even | odd
      · rw [even, Nat.add_zero]
        omega
      · rw [odd, up]
        omega

/-- The mantissa that `m` is rounded to when its last `k` bits go. -/
def dropBits (m k : Nat) : Nat :=
  ((⟨m, false, false⟩ : ExtendedMantissa) >>> k).roundedMantissa

theorem dropBits_spec (m k : Nat) :
    2 * (dropBits m k * 2 ^ k) ≤ 2 * m + 2 ^ k ∧ 2 * m ≤ 2 * (dropBits m k * 2 ^ k) + 2 ^ k :=
  (holds_shiftRight m k).near

/-- A multiple of `2^k` that bounds `m` bounds what is left of it. -/
theorem dropBits_le {m k n : Nat} (h : m ≤ n * 2 ^ k) : dropBits m k ≤ n := by
  have near := (dropBits_spec m k).1
  have unit := Nat.two_pow_pos k
  by_contra larger
  have next : (n + 1) * 2 ^ k ≤ dropBits m k * 2 ^ k := Nat.mul_le_mul_right _ (by omega)
  rw [Nat.succ_mul] at next
  omega

theorem le_dropBits {m k n : Nat} (h : n * 2 ^ k ≤ m) : n ≤ dropBits m k := by
  have near := (dropBits_spec m k).2
  have unit := Nat.two_pow_pos k
  by_contra smaller
  have next : (dropBits m k + 1) * 2 ^ k ≤ n * 2 ^ k := Nat.mul_le_mul_right _ (by omega)
  rw [Nat.succ_mul] at next
  omega

/-! ## Multiples of a power of two -/

theorem zpow_add_natCast (e : Int) (k : Nat) : (2 : ℚ) ^ (e + k) = 2 ^ k * 2 ^ e := by
  rw [zpow_add₀ two_ne_zero, zpow_natCast, mul_comm]

theorem two_pow_mantissaBits_mul_le {e t : Int} (smaller : e < t) :
    (2 : ℚ) ^ f.mantissaBits * 2 ^ e ≤ 2 ^ (f.mantissaBits - 1) * 2 ^ t := by
  have width : f.mantissaBits = f.mantissaBits - 1 + 1 := by
    rw [Format.mantissaBits]
    omega
  calc (2 : ℚ) ^ f.mantissaBits * 2 ^ e = 2 ^ (f.mantissaBits - 1) * 2 ^ (e + 1) := by
        rw [width, pow_succ, zpow_add_one₀ two_ne_zero, Nat.add_sub_cancel]
        ring
    _ ≤ 2 ^ (f.mantissaBits - 1) * 2 ^ t := by
        gcongr
        · exact one_le_two
        · omega

/-- A number whose mantissa is within its bits is smaller than those that fill them at a larger
exponent. -/
theorem mul_zpow_lt {m : Nat} {e t : Int} (short : m < 2 ^ f.mantissaBits) (smaller : e < t) :
    (m : ℚ) * 2 ^ e < 2 ^ (f.mantissaBits - 1) * 2 ^ t := by
  have less : (m : ℚ) < 2 ^ f.mantissaBits := by exact_mod_cast short
  calc (m : ℚ) * 2 ^ e < 2 ^ f.mantissaBits * 2 ^ e := by gcongr
    _ ≤ 2 ^ (f.mantissaBits - 1) * 2 ^ t := two_pow_mantissaBits_mul_le smaller

/-- What the format has is a multiple of `2^t`, or small and `t` is not its least exponent. -/
theorem OnGrid.small_or_multiple {b : ℚ} (grid : OnGrid f b) (nonneg : 0 ≤ b) (t : Int) :
    (f.minExponent < t ∧ b < 2 ^ (f.mantissaBits - 1) * 2 ^ t) ∨ ∃ n : Nat, b = n * 2 ^ t := by
  obtain ⟨m, e, short, least, rfl⟩ := grid
  have hm : 0 ≤ m := by
    by_contra negative
    exact absurd nonneg (not_le.2 (mul_neg_of_neg_of_pos (by exact_mod_cast not_le.1 negative)
      (by positivity)))
  lift m to Nat using hm
  rw [Nat.abs_cast] at short
  rcases lt_or_ge e t with smaller | larger
  · exact .inl ⟨by omega, mul_zpow_lt (by exact_mod_cast short) smaller⟩
  · obtain ⟨k, rfl⟩ := Int.le.dest larger
    refine .inr ⟨m * 2 ^ k, ?_⟩
    rw [zpow_add_natCast]
    push_cast
    ring

theorem mul_zpow_le_iff {n m k : Nat} {e : Int} :
    (n : ℚ) * 2 ^ (e + k) ≤ m * 2 ^ e ↔ n * 2 ^ k ≤ m := by
  rw [zpow_add_natCast, ← mul_assoc, mul_le_mul_iff_of_pos_right (by positivity)]
  norm_cast

/-- No multiple of `2^k` is nearer to a mantissa than the one that is left of it. -/
theorem abs_sub_dropBits_le (m k n : Nat) :
    |(m : ℤ) - (dropBits m k * 2 ^ k : Nat)| ≤ |(m : ℤ) - (n * 2 ^ k : Nat)| := by
  obtain ⟨least, most⟩ := dropBits_spec m k
  have apart {i j : Nat} (less : i < j) : i * 2 ^ k + 2 ^ k ≤ j * 2 ^ k := by
    rw [← Nat.succ_mul]
    exact Nat.mul_le_mul_right _ less
  rcases lt_trichotomy n (dropBits m k) with less | rfl | greater
  · have := apart less
    rw [abs_of_nonneg (a := (m : ℤ) - (n * 2 ^ k : Nat)) (by omega), abs_le]
    omega
  · exact le_rfl
  · have := apart greater
    rw [abs_of_nonpos (a := (m : ℤ) - (n * 2 ^ k : Nat)) (by omega), abs_le]
    omega

theorem abs_sub_dropBits_mul_zpow_le (m k n : Nat) (e : Int) :
    |(m : ℚ) * 2 ^ e - dropBits m k * 2 ^ (e + k)| ≤ |(m : ℚ) * 2 ^ e - n * 2 ^ (e + k)| := by
  have scaled (d : Nat) : |(m : ℚ) * 2 ^ e - d * 2 ^ (e + k)| =
      (|(m : ℤ) - (d * 2 ^ k : Nat)| : ℤ) * 2 ^ e := by
    have factor : (m : ℚ) * 2 ^ e - d * 2 ^ (e + k) = ((m : ℤ) - (d * 2 ^ k : Nat) : ℤ) * 2 ^ e := by
      rw [zpow_add_natCast]
      push_cast
      ring
    rw [factor, abs_mul, abs_of_pos (by positivity : (0 : ℚ) < 2 ^ e), Int.cast_abs]
  have nearest : ((|(m : ℤ) - (dropBits m k * 2 ^ k : Nat)| : ℤ) : ℚ) ≤
      (|(m : ℤ) - (n * 2 ^ k : Nat)| : ℤ) := by
    exact_mod_cast abs_sub_dropBits_le m k n
  rw [scaled, scaled]
  gcongr

/-- Dropping bits rounds, if enough bits are left. -/
theorem isNearest_dropBits {m k : Nat} {e : Int}
    (enough : f.minExponent < e + k → 2 ^ (f.mantissaBits - 1) * 2 ^ k ≤ m) :
    IsNearest f (m * 2 ^ e) (dropBits m k * 2 ^ (e + k)) := by
  have positive : (0 : ℚ) ≤ m * 2 ^ e := by positivity
  intro b grid
  rcases lt_or_ge b 0 with negative | nonneg
  · have zero := abs_sub_dropBits_mul_zpow_le m k 0 e
    rw [Nat.cast_zero, zero_mul, sub_zero, abs_of_nonneg positive] at zero
    rw [abs_of_nonneg (by linarith : 0 ≤ m * 2 ^ e - b)]
    linarith
  rcases grid.small_or_multiple nonneg (e + k) with ⟨least, small⟩ | ⟨n, rfl⟩
  · have exact : (2 ^ (f.mantissaBits - 1) : ℚ) * 2 ^ (e + k) ≤ m * 2 ^ e := by
      exact_mod_cast mul_zpow_le_iff.2 (enough least)
    have full := abs_sub_dropBits_mul_zpow_le m k (2 ^ (f.mantissaBits - 1)) e
    rw [Nat.cast_pow, Nat.cast_ofNat, abs_of_nonneg (sub_nonneg.2 exact)] at full
    rw [abs_of_nonneg (by linarith : 0 ≤ m * 2 ^ e - b)]
    linarith
  · exact abs_sub_dropBits_mul_zpow_le m k n e

/-! ## The target exponent -/

theorem mantissaBits_pos (f : Format) : 0 < f.mantissaBits - 1 := by
  have := f.hm
  rw [Format.mantissaBits]
  omega

/-- At its target exponent a number fills the bits of its mantissa and does not exceed them, unless
the exponent is the least one. -/
theorem targetExponent_spec {m : Nat} {e : Int} {k : Nat}
    (target : f.targetExponent (totalExponent m e) = e + k) :
    f.minExponent ≤ e + k ∧ m < 2 ^ f.mantissaBits * 2 ^ k ∧
      (f.minExponent < e + k → 2 ^ (f.mantissaBits - 1) * 2 ^ k ≤ m) := by
  have bits := mantissaBits_pos f
  rw [Format.targetExponent, totalExponent] at target
  refine ⟨by omega, ?_, fun later => ?_⟩
  · calc m < 2 ^ (m.log2 + 1) := Nat.lt_log2_self
      _ ≤ 2 ^ (f.mantissaBits + k) := Nat.pow_le_pow_right two_pos (by omega)
      _ = _ := Nat.pow_add ..
  · have nonzero : m ≠ 0 := by
      rintro rfl
      rw [Nat.log2_zero] at target
      omega
    calc 2 ^ (f.mantissaBits - 1) * 2 ^ k = 2 ^ (f.mantissaBits - 1 + k) := (Nat.pow_add ..).symm
      _ ≤ 2 ^ m.log2 := Nat.pow_le_pow_right two_pos (by omega)
      _ ≤ m := Nat.log2_self_le nonzero

theorem shiftToTargetExponent_eq {m : Nat} {e : Int} {k : Nat}
    (target : f.targetExponent (totalExponent m e) = e + k) :
    shiftToTargetExponent f m e .exact = ((⟨m, false, false⟩ : ExtendedMantissa) >>> k, e + k) := by
  have amount : (e + k - e).toNat = k := by omega
  simp only [shiftToTargetExponent, shiftToExponent, target, amount]
  rfl

theorem targetExponent_of_isCanonical {m : Nat} {e : Int} (canonical : IsCanonical f m e) :
    f.targetExponent (totalExponent m e) = e := by
  have bits := mantissaBits_pos f
  have least := canonical.least
  have high : m.log2 < f.mantissaBits := by
    rcases Nat.eq_zero_or_pos m with rfl | pos
    · rw [Nat.log2_zero]
      omega
    · exact (Nat.log2_lt (by omega)).2 canonical.short
  have low : f.minExponent < e → f.mantissaBits - 1 ≤ m.log2 := by
    intro later
    have full := canonical.full later
    exact (Nat.le_log2 (by have := Nat.two_pow_pos (f.mantissaBits - 1); omega)).2 full
  rw [Format.targetExponent, totalExponent]
  omega

theorem shiftToTargetExponent_of_isCanonical {m : Nat} {e : Int} (canonical : IsCanonical f m e) :
    shiftToTargetExponent f m e .exact = (⟨m, false, false⟩, e) := by
  have target : f.targetExponent (totalExponent m e) = e + (0 : Nat) := by
    rw [targetExponent_of_isCanonical canonical, Int.natCast_zero, Int.add_zero]
  rw [shiftToTargetExponent_eq target, Int.natCast_zero, Int.add_zero]
  rfl

/-- A mantissa that was rounded up beyond its bits is halved. -/
theorem shiftToTargetExponent_carry {e : Int} (least : f.minExponent ≤ e) :
    shiftToTargetExponent f (2 ^ f.mantissaBits) e .exact =
      (⟨2 ^ (f.mantissaBits - 1), false, false⟩, e + 1) := by
  have bits := mantissaBits_pos f
  have target : f.targetExponent (totalExponent (2 ^ f.mantissaBits) e) = e + (1 : Nat) := by
    rw [Format.targetExponent, totalExponent, Nat.log2_two_pow]
    omega
  have double : 2 ^ f.mantissaBits = 2 ^ (f.mantissaBits - 1) * 2 ^ 1 := by
    rw [← Nat.pow_add]
    congr 1
    omega
  rw [shiftToTargetExponent_eq target, double, Single.shiftRight_mul_two_pow]
  rfl

/-! ## Signs -/

theorem positive_apply (m : Nat) (q : ℚ) : ((Sign.positive.apply m : Int) : ℚ) * q = m * q := rfl

theorem negative_apply (m : Nat) (q : ℚ) :
    ((Sign.negative.apply m : Int) : ℚ) * q = -(m * q) := by
  rw [Sign.apply, Int.cast_neg, Int.cast_natCast, neg_mul]

theorem abs_apply (s : Sign) (m : Nat) {q : ℚ} (nonneg : 0 ≤ q) :
    |((s.apply m : Int) : ℚ) * q| = m * q := by
  have product : (0 : ℚ) ≤ m * q := mul_nonneg m.cast_nonneg nonneg
  cases s with
  | positive => rw [positive_apply, abs_of_nonneg product]
  | negative => rw [negative_apply, abs_neg, abs_of_nonneg product]

theorem apply_zero (s : Sign) : s.apply ((0 : Nat) : Int) = 0 := by
  cases s <;> rfl

theorem apply_mul (s t : Sign) (m n : Nat) :
    (s * t).apply ((m * n : Nat) : Int) = s.apply m * t.apply n := by
  rw [Nat.cast_mul]
  cases s <;> cases t
  · exact (neg_mul_neg _ _).symm
  · exact (neg_mul _ _).symm
  · exact (mul_neg _ _).symm
  · rfl

theorem apply_neg (s : Sign) (m : Int) : (-s).apply m = -s.apply m := by
  cases s
  · exact (Int.neg_neg m).symm
  · rfl

theorem isNearest_apply {s : Sign} {m n : Nat} {e t : Int}
    (h : IsNearest f (m * 2 ^ e) (n * 2 ^ t)) :
    IsNearest f (s.apply m * 2 ^ e) (s.apply n * 2 ^ t) := by
  cases s with
  | positive =>
    rw [positive_apply, positive_apply]
    exact h
  | negative =>
    rw [negative_apply, negative_apply]
    exact h.neg

/-! ## Results -/

/-- The mantissa is rounded at the target exponent; if that carries, the exponent goes up by one. -/
theorem roundsTo_roundWithAccuracy (s : Sign) {m : Nat} {e : Int}
    (wide : e ≤ f.targetExponent (totalExponent m e)) :
    RoundsTo f (s.apply m * 2 ^ e) (roundWithAccuracy f s m e .exact) := by
  obtain ⟨k, target⟩ := Int.le.dest wide
  obtain ⟨least, short, full⟩ := targetExponent_spec target.symm
  have rounded : ((⟨m, false, false⟩ : ExtendedMantissa) >>> k).roundedMantissa = dropBits m k := rfl
  refine ⟨s.apply (dropBits m k) * 2 ^ (e + k), ?_, isNearest_apply (isNearest_dropBits full)⟩
  simp only [roundWithAccuracy, shiftToTargetExponent_eq target.symm, rounded]
  rcases (dropBits_le short.le).lt_or_eq with fits | carry
  · have canonical : IsCanonical f (dropBits m k) (e + k) :=
      ⟨least, fits, fun later => le_dropBits (full later)⟩
    simp only [shiftToTargetExponent_of_isCanonical canonical]
    split
    case isTrue zero =>
      rw [zero, apply_zero, Int.cast_zero, zero_mul]
      exact .zero s
    case isFalse nonzero => exact .finite s _ _ _ canonical
  · have bits := mantissaBits_pos f
    have canonical : IsCanonical f (2 ^ (f.mantissaBits - 1)) (e + k + 1) :=
      ⟨by omega, Nat.pow_lt_pow_right one_lt_two (by omega), fun _ => le_rfl⟩
    have value : ((s.apply ((2 ^ f.mantissaBits : Nat) : Int) : Int) : ℚ) * 2 ^ (e + k) =
        s.apply ((2 ^ (f.mantissaBits - 1) : Nat) : Int) * 2 ^ (e + k + 1) := by
      have double : 2 ^ f.mantissaBits = 2 ^ (f.mantissaBits - 1) * 2 := by
        rw [← Nat.pow_succ, Nat.succ_eq_add_one, Nat.sub_add_cancel (by omega)]
      rw [double, zpow_add_one₀ two_ne_zero]
      cases s <;> simp only [Sign.apply] <;> push_cast <;> ring
    simp only [carry, shiftToTargetExponent_carry least]
    rw [dif_neg (Nat.two_pow_pos _).ne', value]
    exact .finite s _ _ _ canonical

theorem roundWithAccuracy_zero (s : Sign) (e : Int) :
    roundWithAccuracy f s 0 e .exact = .zero s := by
  have nothing (k : Nat) : (⟨0, false, false⟩ : ExtendedMantissa) >>> k = ⟨0, false, false⟩ := by
    have exact := Single.shiftRight_mul_two_pow 0 k
    rwa [Nat.zero_mul] at exact
  have kept : ExtendedMantissa.roundedMantissa ⟨0, false, false⟩ = 0 := rfl
  have start : ExtendedMantissa.ofMantissaAndAccuracy 0 .exact = ⟨0, false, false⟩ := rfl
  simp only [roundWithAccuracy, shiftToTargetExponent, shiftToExponent, start, nothing, kept]
  rfl

/-- Shifting a mantissa up for a smaller exponent changes no value. -/
theorem apply_shiftLeft (s : Sign) (m : Nat) {e t : Int} (smaller : t ≤ e) :
    ((s.apply (m <<< (e - t).toNat : Nat) : Int) : ℚ) * 2 ^ t = s.apply m * 2 ^ e := by
  obtain ⟨k, rfl⟩ := Int.le.dest smaller
  have amount : (t + k - t).toNat = k := by omega
  rw [amount, Nat.shiftLeft_eq, zpow_add_natCast]
  cases s <;> simp only [Sign.apply] <;> push_cast <;> ring

theorem roundsTo_round (s : Sign) (m : Nat) (e : Int) :
    RoundsTo f (s.apply m * 2 ^ e) (UnpackedFloat.round f s m e) := by
  rcases Nat.eq_zero_or_pos m with rfl | pos
  · have zero : UnpackedFloat.round f s 0 e = .zero s := by
      simp only [UnpackedFloat.round, decreaseExponent, Nat.zero_shiftLeft, roundWithAccuracy_zero]
    rw [zero, apply_zero, Int.cast_zero, zero_mul]
    exact (Stands.zero s).roundsTo
  · simp only [UnpackedFloat.round, decreaseExponent]
    generalize amount : (e - f.targetExponent (totalExponent m e)).toNat = k
    have same : totalExponent (m <<< k) (e - k) = totalExponent m e := by
      rw [totalExponent, totalExponent, Nat.shiftLeft_eq, Single.log2_mul_two_pow pos]
      omega
    have value := apply_shiftLeft s m (t := e - k) (e := e) (by omega)
    rw [Int.sub_sub_self, Int.toNat_natCast] at value
    rw [← value]
    exact roundsTo_roundWithAccuracy s (by rw [same]; omega)

theorem roundsTo_normalize (m e : Int) (s : Sign) :
    RoundsTo f (m * 2 ^ e) (UnpackedFloat.normalize f m e s) := by
  unfold UnpackedFloat.normalize
  split
  case h_1 negative =>
    have size : ((-m).toNat : Int) = -m := by
      have := compare_lt_iff_lt.1 negative
      omega
    have := roundsTo_round (f := f) .negative (-m).toNat e
    rwa [size, Sign.apply, Int.neg_neg] at this
  case h_2 zero =>
    rw [compare_eq_iff_eq.1 zero, Int.cast_zero, zero_mul]
    exact (Stands.zero s).roundsTo
  case h_3 positive =>
    have size : (m.toNat : Int) = m := by
      have := compare_gt_iff_gt.1 positive
      omega
    have := roundsTo_round (f := f) .positive m.toNat e
    rwa [size] at this

end KanaVoice.Rounding
