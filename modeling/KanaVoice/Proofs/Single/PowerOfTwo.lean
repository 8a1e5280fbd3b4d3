import KanaVoice.Proofs.Single.Values
set_option autoImplicit false

/-!
# Where powers of two are finite

The power of a single-precision number below 128 is finite, and no other is.  The number is at most
1/64 away from the multiple of 1/32 that is split off, so the power of the remainder is at most 65/64,
which leaves the product with the power of the multiple within single precision.  Only next to 128 is
the multiple 128 itself, whose power is too large: there the remainder is a negative multiple of
`2^-17`, and its power is smaller than one by enough.
-/

namespace KanaVoice.Single

open Float.Model (Format UnpackedFloat)
open Float.Model.UnpackedFloat
open Rounding (Fits)

/-! ## Numbers that fit -/

theorem fits_div {q : ℚ} (n k : Nat) (short : n < 2 ^ 53 := by decide) (few : k ≤ 971 := by decide)
    (value : q = n / 2 ^ k := by norm_num) : Fits .binary64 q := by
  refine Rounding.fits_of_eq n (-k) ?_ ?_ ?_ ?_
  · rw [Nat.abs_cast]
    exact_mod_cast short
  · show (-1074 : Int) ≤ -k
    omega
  · show -(k : Int) ≤ 971
    omega
  · rw [value, zpow_neg, zpow_natCast, div_eq_mul_inv]
    rfl

theorem fits_zero : Fits .binary64 0 := fits_div 0 0

/-! ## The multiple of 1/32 -/

/-- How many steps are nearest to `m`; a tie goes to the even number. -/
def stepsNear (m step : Nat) : Nat :=
  if 2 * (m % step) < step then m / step
  else if step < 2 * (m % step) then m / step + 1
  else m / step + m / step % 2

theorem stepsNear_spec {m step : Nat} (pos : 0 < step) :
    2 * (stepsNear m step * step) ≤ 2 * m + step ∧
      2 * m ≤ 2 * (stepsNear m step * step) + step := by
  have parts := Nat.div_add_mod m step
  have inside := Nat.mod_lt m pos
  have next : (m / step + 1) * step = m / step * step + step := Nat.succ_mul _ _
  rw [Nat.mul_comm] at parts
  unfold stepsNear
  split_ifs with below above
  · omega
  · omega
  · rcases Nat.mod_two_eq_zero_or_one (m / step) with even | odd
    · rw [even, Nat.add_zero]
      omega
    · rw [odd]
      omega

theorem nearestThirtySecond_of_negSucc (s : Sign) (m : Nat) {e : Int} {k : Nat}
    (small : e + 5 = .negSucc k) :
    nearestThirtySecond s m e = s.apply (stepsNear m (2 ^ (k + 1))) := by
  simp only [nearestThirtySecond, small, stepsNear]
  cases s <;> simp only [Sign.apply, Nat.pow_eq] <;> split_ifs <;> push_cast <;> rfl

theorem exists_nearestThirtySecond_eq (s : Sign) (m : Nat) (e : Int) :
    ∃ whole : Nat, nearestThirtySecond s m e = s.apply whole ∧
      |(m : ℚ) * 2 ^ (e + 5) - whole| ≤ 1 / 2 := by
  cases h : e + 5 with
  | ofNat k =>
    refine ⟨m * 2 ^ k, ?_, ?_⟩
    · simp only [nearestThirtySecond, h]
      cases s <;> simp [Sign.apply]
    · have exact : (m : ℚ) * 2 ^ Int.ofNat k = (m * 2 ^ k : Nat) := by
        rw [Int.ofNat_eq_natCast, zpow_natCast]
        push_cast
        rfl
      rw [exact, sub_self, abs_zero]
      norm_num
  | negSucc k =>
    refine ⟨_, nearestThirtySecond_of_negSucc s m h, ?_⟩
    have pos : 0 < 2 ^ (k + 1) := Nat.two_pow_pos _
    obtain ⟨least, most⟩ := stepsNear_spec pos (m := m)
    have power : (2 : ℚ) ^ Int.negSucc k = ((2 ^ (k + 1) : Nat) : ℚ)⁻¹ := by
      rw [zpow_negSucc]
      push_cast
      rfl
    rw [power]
    generalize 2 ^ (k + 1) = step at *
    have positive : (0 : ℚ) < step := by exact_mod_cast pos
    have least : 2 * ((stepsNear m step : ℚ) * step) ≤ 2 * m + step := by exact_mod_cast least
    have most : 2 * (m : ℚ) ≤ 2 * (stepsNear m step * step) + step := by exact_mod_cast most
    rw [← div_eq_mul_inv, abs_le, le_sub_iff_add_le, sub_le_iff_le_add, le_div_iff₀ positive,
      div_le_iff₀ positive]
    constructor
    · linarith
    · linarith

theorem abs_sub_nearestThirtySecond_le (s : Sign) (m : Nat) (e : Int) :
    |(s.apply m : ℚ) * 2 ^ e - nearestThirtySecond s m e / 32| ≤ 1 / 64 := by
  obtain ⟨whole, value, near⟩ := exists_nearestThirtySecond_eq s m e
  have scaled : (2 : ℚ) ^ (e + 5) = 32 * 2 ^ e := by
    rw [zpow_add₀ two_ne_zero, mul_comm]
    norm_num
  rw [scaled, abs_le] at near
  rw [value, abs_le]
  cases s with
  | positive =>
    rw [Rounding.positive_apply, Sign.apply, Int.cast_natCast]
    constructor
    · linarith
    · linarith
  | negative =>
    rw [Rounding.negative_apply, Sign.apply, Int.cast_neg, Int.cast_natCast]
    constructor
    · linarith
    · linarith

/-! ## The power of the remainder -/

/-- The coefficients of the cubic. -/
def cubicCoefficient : Float := nearestDouble .positive 0x1c6af84b912394 (-57)

def squareCoefficient : Float := nearestDouble .positive 0x1ebfce50fac4f3 (-55)

def linearCoefficient : Float := nearestDouble .positive 0x162e42ff0c52d6 (-53)

theorem nearOnePower_eq (r : Float) :
    nearOnePower r =
      (cubicCoefficient * r + squareCoefficient) * (r * r) + (linearCoefficient * r + 1) :=
  rfl

theorem isDouble_coefficient {m : Nat} {e : Int} {q : ℚ} (value : q = m * 2 ^ e)
    (fits : Fits .binary64 q) : IsDouble (nearestDouble .positive m e) q := by
  subst value
  exact isDouble_nearestDouble fits

theorem exists_cubicCoefficient : ∃ c, IsDouble cubicCoefficient c ∧ 0 ≤ c ∧ c ≤ 1 / 16 := by
  refine ⟨0x1c6af84b912394 / 2 ^ 57, isDouble_coefficient (by norm_num) ?_, by norm_num, by norm_num⟩
  exact fits_div 0x1c6af84b912394 57

theorem exists_squareCoefficient :
    ∃ c, IsDouble squareCoefficient c ∧ 1 / 1024 ≤ c ∧ c ≤ 1 / 4 - 1 / 1024 := by
  refine ⟨0x1ebfce50fac4f3 / 2 ^ 55, isDouble_coefficient (by norm_num) ?_, by norm_num, by norm_num⟩
  exact fits_div 0x1ebfce50fac4f3 55

theorem exists_linearCoefficient :
    ∃ c, IsDouble linearCoefficient c ∧ 1 / 2 ≤ c ∧ c ≤ 3 / 4 := by
  refine ⟨0x162e42ff0c52d6 / 2 ^ 53, isDouble_coefficient (by norm_num) ?_, by norm_num, by norm_num⟩
  exact fits_div 0x162e42ff0c52d6 53

section

variable {x : Float} {r : ℚ}

theorem exists_higherTerms {square : ℚ} (hx : IsDouble x r) (small : |r| ≤ 1 / 64)
    (squareFits : Fits .binary64 square) (quarterFits : Fits .binary64 (square / 4))
    (hsquare : r * r ≤ square) :
    ∃ p, IsDouble ((cubicCoefficient * x + squareCoefficient) * (x * x)) p ∧
      0 ≤ p ∧ p ≤ square / 4 := by
  obtain ⟨least, most⟩ := abs_le.1 small
  obtain ⟨c, hc, cleast, cmost⟩ := exists_cubicCoefficient
  obtain ⟨d, hd, dleast, dmost⟩ := exists_squareCoefficient
  have thousandth : Fits .binary64 (1 / 1024) := fits_div 1 10
  have quarter : Fits .binary64 (1 / 4) := fits_div 1 2
  obtain ⟨a, ha, aleast, amost⟩ := hc.mul hx thousandth.neg thousandth (by nlinarith) (by nlinarith)
  obtain ⟨b, hb, bleast, bmost⟩ := ha.add hd fits_zero quarter (by linarith) (by linarith)
  obtain ⟨e, he, eleast, emost⟩ := hx.mul hx fits_zero squareFits (mul_self_nonneg r) hsquare
  exact hb.mul he fits_zero quarterFits (mul_nonneg bleast eleast) (by nlinarith)

theorem exists_lowerTerms {linear : ℚ} (hx : IsDouble x r) (small : |r| ≤ 1 / 64)
    (linearFits : Fits .binary64 linear) (sumFits : Fits .binary64 (linear + 1))
    (hlinear : ∀ c : ℚ, 1 / 2 ≤ c → c ≤ 3 / 4 → c * r ≤ linear) :
    ∃ p, IsDouble (linearCoefficient * x + 1) p ∧ 1 / 2 ≤ p ∧ p ≤ linear + 1 := by
  obtain ⟨least, most⟩ := abs_le.1 small
  obtain ⟨c, hc, cleast, cmost⟩ := exists_linearCoefficient
  have low : Fits .binary64 (3 / 256) := fits_div 3 8
  have half : Fits .binary64 (1 / 2) := fits_div 1 1
  obtain ⟨a, ha, aleast, amost⟩ := hc.mul hx low.neg linearFits (by nlinarith)
    (hlinear c cleast cmost)
  exact ha.add isDouble_one half sumFits (by linarith) (by linarith)

/-- The cubic is bounded by what bounds its terms. -/
theorem exists_nearOnePower (hx : IsDouble x r) (small : |r| ≤ 1 / 64) (square linear bound : ℚ)
    (squareFits : Fits .binary64 square) (quarterFits : Fits .binary64 (square / 4))
    (linearFits : Fits .binary64 linear) (sumFits : Fits .binary64 (linear + 1))
    (boundFits : Fits .binary64 bound) (hsquare : r * r ≤ square)
    (hlinear : ∀ c : ℚ, 1 / 2 ≤ c → c ≤ 3 / 4 → c * r ≤ linear)
    (hbound : square / 4 + (linear + 1) ≤ bound) :
    ∃ p, IsDouble (nearOnePower x) p ∧ 0 ≤ p ∧ p ≤ bound := by
  obtain ⟨a, ha, aleast, amost⟩ := exists_higherTerms hx small squareFits quarterFits hsquare
  obtain ⟨b, hb, bleast, bmost⟩ := exists_lowerTerms hx small linearFits sumFits hlinear
  rw [nearOnePower_eq]
  exact ha.add hb fits_zero boundFits (by linarith) (by linarith)

theorem exists_nearOnePower_of_small (hx : IsDouble x r) (small : |r| ≤ 1 / 64) :
    ∃ p, IsDouble (nearOnePower x) p ∧ 0 ≤ p ∧ p ≤ 65 / 64 := by
  obtain ⟨least, most⟩ := abs_le.1 small
  refine exists_nearOnePower hx small (1 / 4096) (3 / 256) (65 / 64)
    (fits_div 1 12) (fits_div 1 14) (fits_div 3 8) (fits_div 259 8) (fits_div 65 6) (by nlinarith) ?_
    (by norm_num)
  intro c positive most
  nlinarith

/-- A remainder that is negative by some `2^-17` has a power below one by some `2^-19`. -/
theorem exists_nearOnePower_of_neg {j : Nat} (pos : 1 ≤ j) (few : j ≤ 2 ^ 11)
    (hx : IsDouble x (-(j / 2 ^ 17))) :
    ∃ p, IsDouble (nearOnePower x) p ∧ 0 ≤ p ∧ p ≤ 1 - 1 / 2 ^ 19 := by
  have positive : (1 : ℚ) ≤ j := by exact_mod_cast pos
  have bounded : (j : ℚ) ≤ 2 ^ 11 := by exact_mod_cast few
  have small : |(-(j / 2 ^ 17) : ℚ)| ≤ 1 / 64 := by
    rw [abs_neg, abs_of_nonneg (by positivity)]
    linarith
  have part (k : Nat) (most : k ≤ 971) : Fits .binary64 (j / 2 ^ k) :=
    fits_div j k (by omega) most rfl
  have rest {k : Nat} (least : 11 ≤ k) (most : k ≤ 52) {q : ℚ} (value : q = 1 - j / 2 ^ k) :
      Fits .binary64 q := by
    have enough := few.trans (Nat.pow_le_pow_right two_pos least)
    have limit := Nat.pow_le_pow_right two_pos most
    refine fits_div (2 ^ k - j) k (by omega) (by omega) ?_
    rw [value, Nat.cast_sub enough, sub_div, Nat.cast_pow, Nat.cast_ofNat,
      div_self (by positivity)]
  obtain ⟨p, hp, least, most⟩ := exists_nearOnePower hx small (j / 2 ^ 23) (-(j / 2 ^ 18))
    (1 - j / 2 ^ 19) (part 23 (by decide))
    (fits_div j 25 (by omega) (by decide) (by ring)) (part 18 (by decide)).neg
    (rest (k := 18) (by decide) (by decide) (by ring))
    (rest (k := 19) (by decide) (by decide) rfl) (by nlinarith)
    (fun c least _ => by nlinarith) (by linarith)
  exact ⟨p, hp, least, by linarith⟩

end

/-! ## The power of the multiple -/

/-- What is left of `x` beside `n` thirty-seconds. -/
def remainder (x : Float32) (n : Int) : Float :=
  widen x - nearestDouble (if n < 0 then .negative else .positive) n.natAbs (-5)

/-- The power of `n` thirty-seconds. -/
def tablePower (n : Int) : Float :=
  nearestDouble .positive (thirtySecondPowers.getD (n % 32).toNat 0) (n / 32 - 52)

theorem exp2_of_finite {x : Float32} {s : Sign} {m : Nat} {e : Int} {pos : 0 < m}
    (h : unpack x = .finite s m e pos) (below : ¬ 128 ≤ x) (above : ¬ x ≤ -150) :
    exp2 x = narrow (nearOnePower (remainder x (nearestThirtySecond s m e)) *
      tablePower (nearestThirtySecond s m e)) := by
  simp only [exp2, h]
  rw [if_neg below, if_neg above]
  rfl

theorem thirtySecondPowers_le {i : Nat} (h : i < 32) :
    thirtySecondPowers.getD i 0 ≤ 63 * 2 ^ 47 := by
  revert i
  decide

section

variable {n : Int}

theorem isDouble_tablePower (low : -4800 ≤ n) (high : n ≤ 4096) :
    IsDouble (tablePower n) (thirtySecondPowers.getD (n % 32).toNat 0 * 2 ^ (n / 32 - 52)) := by
  have table := thirtySecondPowers_le (i := (n % 32).toNat) (by omega)
  refine isDouble_coefficient rfl (Rounding.fits_of_eq _ _ ?_ ?_ ?_ rfl)
  · show |((thirtySecondPowers.getD (n % 32).toNat 0 : Nat) : Int)| < 2 ^ 53
    rw [Nat.abs_cast]
    omega
  · show (-1074 : Int) ≤ _
    omega
  · show _ ≤ (971 : Int)
    omega

theorem tablePower_le (high : n ≤ 4095) :
    (thirtySecondPowers.getD (n % 32).toNat 0 : ℚ) * 2 ^ (n / 32 - 52) ≤ 63 * 2 ^ 122 := by
  have table : (thirtySecondPowers.getD (n % 32).toNat 0 : ℚ) ≤ (63 * 2 ^ 47 : Nat) := by
    exact_mod_cast thirtySecondPowers_le (by omega)
  have power : (2 : ℚ) ^ (n / 32 - 52) ≤ 2 ^ (75 : Int) :=
    zpow_le_zpow_right₀ one_le_two (by omega)
  calc (thirtySecondPowers.getD (n % 32).toNat 0 : ℚ) * 2 ^ (n / 32 - 52)
      ≤ (63 * 2 ^ 47 : Nat) * 2 ^ (75 : Int) := mul_le_mul table power (by positivity) (by positivity)
    _ = 63 * 2 ^ 122 := by norm_num

theorem isDouble_thirtySeconds (low : -4800 ≤ n) (high : n ≤ 4096) :
    IsDouble (nearestDouble (if n < 0 then .negative else .positive) n.natAbs (-5)) (n / 32) := by
  have signed : (if n < 0 then Sign.negative else .positive).apply (n.natAbs : Int) = n := by
    split_ifs with negative
    · rw [Sign.apply]
      omega
    · rw [Sign.apply]
      omega
  have scaled : (n / 32 : ℚ) = n * 2 ^ (-5 : Int) := by
    norm_num
    ring
  have fits : Fits .binary64 (n / 32) := by
    refine Rounding.fits_of_eq n (-5) ?_ (by decide) (by decide) scaled
    show |n| < 2 ^ 53
    rw [abs_lt]
    omega
  rw [scaled] at fits ⊢
  rw [← signed] at fits
  have double := isDouble_nearestDouble fits
  rwa [signed] at double

end

/-! ## Finite powers -/

section

variable {x : Float32} {q : ℚ}

theorem isFinite_narrow_mul {x y : Float} {p t high : ℚ} (hx : IsDouble x p) (hy : IsDouble y t)
    (bound : ℚ) (single : Fits .binary32 bound) (double : Fits .binary64 bound)
    (hp : 0 ≤ p ∧ p ≤ high) (ht : 0 ≤ t) (product : high * t ≤ bound) :
    (narrow (x * y)).isFinite = true := by
  have zero : Fits .binary32 0 :=
    Rounding.fits_of_eq 0 0 (by decide) (by decide) (by decide) (by norm_num)
  obtain ⟨w, hw, least, most⟩ := hx.mul hy fits_zero double (mul_nonneg hp.1 ht)
    ((mul_le_mul_of_nonneg_right hp.2 ht).trans product)
  obtain ⟨_, finite, -⟩ := exists_isSingle_narrow hw zero single least most
  exact finite.isFinite

theorem isDouble_widen_of_lt (hx : IsSingle x q) (low : -150 < q) (high : q < 128) :
    IsDouble (widen x) q := by
  refine isDouble_widen hx ⟨onGrid_binary64 hx.onGrid, ?_⟩
  have magnitude : |q| < 150 := abs_lt.2 ⟨low, by linarith⟩
  have most : Rounding.maxExponent .binary64 = (971 : Nat) := rfl
  rw [most, zpow_natCast]
  calc |q| < 2 ^ 53 := magnitude.trans (by norm_num)
    _ ≤ 2 ^ 53 * 2 ^ 971 := le_mul_of_one_le_right (by positivity) (one_le_pow₀ one_le_two)

/-- Next to 128 the numbers of single precision are multiples of `2^-17`. -/
theorem exists_below_128 (hx : IsSingle x q) (high : q < 128) (close : 128 - 1 / 64 ≤ q) :
    ∃ j : Nat, 1 ≤ j ∧ j ≤ 2 ^ 11 ∧ q - 128 = -(j / 2 ^ 17) := by
  rcases hx.onGrid.small_or_multiple (by linarith) (-17) with ⟨-, small⟩ | ⟨n, rfl⟩
  · refine absurd close (not_le.2 (small.trans_le ?_))
    norm_num [Format.mantissaBits]
  · have power : (2 : ℚ) ^ (-17 : Int) = 1 / 2 ^ 17 := by norm_num
    rw [power] at high close
    have below : (n : ℚ) < (2 ^ 24 : Nat) := by
      push_cast
      linarith
    have above : ((2 ^ 24 : Nat) : ℚ) ≤ (n + 2 ^ 11 : Nat) := by
      push_cast
      linarith
    have below : n < 2 ^ 24 := by exact_mod_cast below
    have above : 2 ^ 24 ≤ n + 2 ^ 11 := by exact_mod_cast above
    refine ⟨2 ^ 24 - n, by omega, by omega, ?_⟩
    rw [power, Nat.cast_sub below.le]
    push_cast
    ring

theorem isFinite_of_le_4095 {n : Int} (hx : IsSingle x q) (low : -150 < q) (high : q < 128)
    (near : |q - n / 32| ≤ 1 / 64) (first : -4800 ≤ n) (last : n ≤ 4095) :
    (narrow (nearOnePower (remainder x n) * tablePower n)).isFinite = true := by
  obtain ⟨least, most⟩ := abs_le.1 near
  have sixtyFourth : Fits .binary64 (1 / 64) := fits_div 1 6
  obtain ⟨r, hr, rleast, rmost⟩ := (isDouble_widen_of_lt hx low high).sub
    (isDouble_thirtySeconds first (by omega)) sixtyFourth.neg sixtyFourth least most
  obtain ⟨p, hp, range⟩ := exists_nearOnePower_of_small hr (abs_le.2 ⟨rleast, rmost⟩)
  refine isFinite_narrow_mul hp (isDouble_tablePower first (by omega)) (4095 * 2 ^ 116)
    (Rounding.fits_of_eq (4095 * 2 ^ 12) 104 (by decide) (by decide) (by decide) (by norm_num))
    (Rounding.fits_of_eq (4095 * 2 ^ 12) 104 (by decide) (by decide) (by decide) (by norm_num))
    range (by positivity) ?_
  calc (65 / 64 : ℚ) * (thirtySecondPowers.getD (n % 32).toNat 0 * 2 ^ (n / 32 - 52))
      ≤ 65 / 64 * (63 * 2 ^ 122) := by
        have := tablePower_le last
        gcongr
    _ = 4095 * 2 ^ 116 := by norm_num

theorem isFinite_of_eq_4096 (hx : IsSingle x q) (high : q < 128) (close : 128 - 1 / 64 ≤ q) :
    (narrow (nearOnePower (remainder x 4096) * tablePower 4096)).isFinite = true := by
  obtain ⟨j, pos, few, exact⟩ := exists_below_128 hx high close
  have steps := isDouble_thirtySeconds (n := 4096) (by decide) (by decide)
  have start : ((4096 : Int) / 32 : ℚ) = 128 := by norm_num
  rw [start] at steps
  have fits : Fits .binary64 (j / 2 ^ 17) := fits_div j 17 (by omega) (by decide) rfl
  obtain ⟨r, hr, rleast, rmost⟩ := (isDouble_widen_of_lt hx (by linarith) high).sub steps
    fits.neg fits.neg exact.ge exact.le
  obtain rfl := le_antisymm rmost rleast
  obtain ⟨p, hp, range⟩ := exists_nearOnePower_of_neg pos few hr
  refine isFinite_narrow_mul hp (isDouble_tablePower (by decide) (by decide))
    (2 ^ 128 - 2 ^ 109)
    (Rounding.fits_of_eq (2 ^ 24 - 2 ^ 5) 104 (by decide) (by decide) (by decide) (by norm_num))
    (Rounding.fits_of_eq (2 ^ 24 - 2 ^ 5) 104 (by decide) (by decide) (by decide) (by norm_num))
    range (by positivity) ?_
  norm_num [thirtySecondPowers]

theorem isFinite_of_near {n : Int} (hx : IsSingle x q) (low : -150 < q) (high : q < 128)
    (near : |q - n / 32| ≤ 1 / 64) :
    (narrow (nearOnePower (remainder x n) * tablePower n)).isFinite = true := by
  obtain ⟨least, most⟩ := abs_le.1 near
  have first : (-4801 : ℚ) < n := by linarith
  have last : (n : ℚ) < 4097 := by linarith
  have first : -4801 < n := by exact_mod_cast first
  have last : n < 4096 + 1 := by exact_mod_cast last
  rcases (Int.lt_add_one_iff.1 last).lt_or_eq with inside | rfl
  · exact isFinite_of_le_4095 hx low high near (by omega) (by omega)
  · exact isFinite_of_eq_4096 hx high (by norm_num at least ⊢; linarith)

end

theorem isSingle_128 : IsSingle 128 128 := by
  have value : (128 : ℚ) = (Sign.positive.apply (2 ^ 23 : Nat) : Int) * 2 ^ (-16 : Int) := by
    norm_num [Sign.apply]
  have unpacked : (128 : Float32).toModel.unpack = .finite .positive (2 ^ 23) (-16) (by decide) := rfl
  rw [value]
  exact isSingle_of_unpack_eq unpacked

theorem isSingle_neg_150 : IsSingle (-150) (-150) := by
  have value : (-150 : ℚ) = (Sign.negative.apply (150 * 2 ^ 16 : Nat) : Int) * 2 ^ (-16 : Int) := by
    norm_num [Sign.apply]
  have unpacked : (-150 : Float32).toModel.unpack =
      .finite .negative (150 * 2 ^ 16) (-16) (by decide) := rfl
  rw [value]
  exact isSingle_of_unpack_eq unpacked

theorem isFinite_iff {x : Float32} : x.isFinite = true ↔ (unpack x).isFinite = true := Iff.rfl

/-- A power of two is finite for the exponents below 128 and no others. -/
theorem isFinite_exp2_iff (x : Float32) : (exp2 x).isFinite = true ↔ x < 128 := by
  have order : x < 128 ↔ UnpackedFloat.lt (unpack x) (128 : Float32).toModel.unpack = true :=
    lt_iff
  cases h : unpack x with
  | notANumber =>
    have kept : exp2 x = x := by simp only [exp2, h]
    rw [order, kept, isFinite_iff, h]
    exact iff_of_false nofun nofun
  | infinity s =>
    cases s with
    | positive =>
      have kept : exp2 x = x := by simp only [exp2, h]
      rw [order, kept, isFinite_iff, h]
      exact iff_of_false nofun nofun
    | negative =>
      have none : exp2 x = 0 := by simp only [exp2, h]
      rw [order, none, h]
      exact iff_of_true rfl rfl
  | zero s =>
    have one : exp2 x = 1 := by simp only [exp2, h]
    rw [order, one, h]
    exact iff_of_true rfl rfl
  | finite s m e pos =>
    have hx : IsSingle x (s.apply m * 2 ^ e) := isSingle_of_unpack_eq h
    rw [hx.lt_iff isSingle_128]
    by_cases large : 128 ≤ x
    · have infinite : exp2 x = nearest .positive 1 128 := by
        simp only [exp2, h, if_pos large]
      rw [isSingle_128.le_iff hx] at large
      rw [infinite]
      exact iff_of_false (by decide) (not_lt.2 large)
    by_cases small : x ≤ -150
    · have none : exp2 x = 0 := by
        simp only [exp2, h, if_neg large, if_pos small]
      rw [hx.le_iff isSingle_neg_150] at small
      rw [none]
      exact iff_of_true rfl (by linarith)
    rw [exp2_of_finite h large small]
    rw [isSingle_128.le_iff hx, not_le] at large
    rw [hx.le_iff isSingle_neg_150, not_le] at small
    exact iff_of_true (isFinite_of_near hx small large (abs_sub_nearestThirtySecond_le s m e)) large

end KanaVoice.Single
