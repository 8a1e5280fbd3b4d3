import KanaVoice.Proofs.Single.Arithmetic
set_option autoImplicit false

/-!
# Packed results

A number of a format that is not too large is packed into its bits without a loss, and a larger one
becomes an infinity, so that packing keeps the order.  A result that lies between two numbers that
the format has is therefore a finite number between these.
-/

namespace KanaVoice.Rounding

open Float.Model (Format UnpackedFloat)
open Float.Model.UnpackedFloat

variable {f : Format} {a : UnpackedFloat} {u : ℚ}

/-! ## Packing -/

/-- The largest exponent of a finite number. -/
def maxExponent (f : Format) : Int := 2 ^ (f.exponentBits - 1) - f.mantissaBits

/-- Biased, the exponents of finite numbers are those between the two special ones. -/
theorem exists_biased {e : Int} (least : f.minExponent ≤ e) (most : e ≤ maxExponent f) :
    ∃ biased : Nat, e = biased - (f.exponentBias + f.mantissaBitsWithoutImplicit) ∧
      0 < biased ∧ biased + 1 < 2 ^ f.exponentBits ∧ (f.minExponent < e → 1 < biased) := by
  have double : 2 ^ f.exponentBits = 2 * 2 ^ (f.exponentBits - 1) := by
    rw [← Nat.pow_succ', Nat.succ_eq_add_one, Nat.sub_add_cancel f.he]
  have half : (2 : Int) ^ (f.exponentBits - 1) = (2 ^ (f.exponentBits - 1) : Nat) := by norm_cast
  have pos := Nat.two_pow_pos (f.exponentBits - 1)
  simp only [Format.minExponent, maxExponent, Format.mantissaBits, Format.exponentBias, half,
    double] at *
  generalize 2 ^ (f.exponentBits - 1) = p at *
  exact ⟨(e + (p - 1) + f.mantissaBitsWithoutImplicit).toNat, by omega, by omega, by omega,
    by omega⟩

theorem minExponent_eq_bias (f : Format) :
    f.minExponent = 1 - (f.exponentBias + f.mantissaBitsWithoutImplicit : Nat) := by
  have half : (2 : Int) ^ (f.exponentBits - 1) = (2 ^ (f.exponentBits - 1) : Nat) := by norm_cast
  have pos := Nat.two_pow_pos (f.exponentBits - 1)
  simp only [Format.minExponent, Format.mantissaBits, Format.exponentBias, half]
  omega

theorem ofNat_eq_iff {n k l : Nat} (hk : k < 2 ^ n) (hl : l < 2 ^ n) :
    BitVec.ofNat n k = BitVec.ofNat n l ↔ k = l := by
  rw [← BitVec.toNat_inj, BitVec.toNat_ofNat, BitVec.toNat_ofNat, Nat.mod_eq_of_lt hk,
    Nat.mod_eq_of_lt hl]

theorem ofNat_eq_allOnes_iff {n k : Nat} (h : k < 2 ^ n) :
    BitVec.ofNat n k = -1#n ↔ k + 1 = 2 ^ n := by
  rw [← BitVec.toNat_inj, BitVec.neg_one_eq_allOnes, BitVec.toNat_allOnes, BitVec.toNat_ofNat,
    Nat.mod_eq_of_lt h]
  omega

theorem toNat_leadingOne {n m : Nat} (low : 2 ^ n ≤ m) (high : m < 2 ^ (n + 1)) :
    (1#1 ++ BitVec.ofNat n m).toNat = m := by
  have rest : (BitVec.ofNat n m).toNat = m - 2 ^ n := by
    rw [BitVec.toNat_ofNat, Nat.mod_eq_sub_mod low, Nat.mod_eq_of_lt (by omega)]
  have one : (1#1).toNat <<< n = 2 ^ n := by
    rw [Nat.shiftLeft_eq]
    exact Nat.one_mul _
  rw [BitVec.toNat_append, ← Nat.shiftLeft_add_eq_or_of_lt (BitVec.ofNat n m).isLt, one, rest]
  omega

/-- A canonical number that is not too large is packed without a loss. -/
theorem unpack_pack {s : Sign} {m : Nat} {e : Int} (canonical : IsCanonical f m e)
    (most : e ≤ maxExponent f) (pos : 0 < m) :
    UnpackedFloat.unpack f (pack f (.finite s m e pos)) = .finite s m e pos := by
  obtain ⟨biased, exponent, first, last, later⟩ := exists_biased canonical.least most
  have field : (e + f.exponentBias + f.mantissaBitsWithoutImplicit).toNat = biased := by omega
  have short := canonical.short
  have width : f.mantissaBits = f.mantissaBitsWithoutImplicit + 1 := Nat.add_comm _ _
  rw [pack]
  simp only [field]
  rw [if_neg (by omega)]
  by_cases full : m.log2 + 1 = f.mantissaBits
  case pos =>
    have low : 2 ^ f.mantissaBitsWithoutImplicit ≤ m := by
      rw [← Nat.le_log2 (by omega)]
      omega
    rw [if_pos full, UnpackedFloat.unpack]
    simp only [unpackMantissa_packComponents, unpackExponent_packComponents,
      unpackSign_packComponents, Sign.ofBitVec_toBitVec]
    rw [if_neg (by rw [ofNat_eq_allOnes_iff (by omega)]; omega),
      if_neg (by rw [ofNat_eq_iff (by omega) (by omega)]; omega)]
    simp only [toNat_leadingOne low (width ▸ short), BitVec.toNat_ofNat,
      Nat.mod_eq_of_lt (Nat.lt_of_succ_lt last), exponent]
  case neg =>
    have small : m < 2 ^ f.mantissaBitsWithoutImplicit := by
      rw [← Nat.log2_lt (by omega)]
      have := (Nat.log2_lt (by omega)).2 short
      omega
    have least : e = f.minExponent := by
      by_contra other
      have := canonical.full (by have := canonical.least; omega)
      rw [width, Nat.add_sub_cancel] at this
      omega
    rw [if_neg full, UnpackedFloat.unpack]
    simp only [unpackMantissa_packComponents, unpackExponent_packComponents,
      unpackSign_packComponents, Sign.ofBitVec_toBitVec]
    have allOnes : ¬ 0#f.exponentBits = -1#f.exponentBits := by
      rw [ofNat_eq_allOnes_iff (Nat.two_pow_pos _)]
      omega
    have zero : ¬ BitVec.ofNat f.mantissaBitsWithoutImplicit m = 0#_ := by
      rw [ofNat_eq_iff small (Nat.two_pow_pos _)]
      omega
    have exponent : ((0#f.exponentBits).toNat - (f.exponentBias + f.mantissaBitsWithoutImplicit) + 1
        : Int) = e := by
      rw [least, minExponent_eq_bias, BitVec.toNat_ofNat, Nat.zero_mod]
      omega
    rw [if_neg allOnes, if_pos trivial, dif_neg zero]
    simp only [exponent]
    simp only [BitVec.toNat_ofNat, Nat.mod_eq_of_lt small]

/-! ## Numbers too large to be packed -/

/-- What the finite numbers of a format stay below. -/
def ceiling (f : Format) : ℚ := 2 ^ f.mantissaBits * 2 ^ maxExponent f

theorem unpack_packedInfinity (s : Sign) :
    UnpackedFloat.unpack f (packedInfinity f s) = .infinity s := by
  rw [packedInfinity, UnpackedFloat.unpack]
  simp only [unpackMantissa_packComponents, unpackExponent_packComponents,
    unpackSign_packComponents, Sign.ofBitVec_toBitVec]
  rfl

/-- An exponent beyond the largest one is packed as an infinity. -/
theorem unpack_pack_of_large {s : Sign} {m : Nat} {e : Int} (large : maxExponent f < e)
    (pos : 0 < m) : UnpackedFloat.unpack f (pack f (.finite s m e pos)) = .infinity s := by
  have double : 2 ^ f.exponentBits = 2 * 2 ^ (f.exponentBits - 1) := by
    rw [← Nat.pow_succ', Nat.succ_eq_add_one, Nat.sub_add_cancel f.he]
  have half : (2 : Int) ^ (f.exponentBits - 1) = (2 ^ (f.exponentBits - 1) : Nat) := by norm_cast
  have beyond : 2 ^ f.exponentBits ≤
      (e + f.exponentBias + f.mantissaBitsWithoutImplicit).toNat + 1 := by
    simp only [maxExponent, Format.mantissaBits, Format.exponentBias, half, double] at *
    omega
  rw [pack, if_pos beyond, unpack_packedInfinity]

/-- A number of the format is packed without a loss, or it is too large and becomes an infinity. -/
theorem unpack_pack_cases (exponents : f.minExponent ≤ maxExponent f) (ha : Stands f a u) :
    |u| < ceiling f ∧ UnpackedFloat.unpack f (pack f a) = a ∨
      ceiling f ≤ u ∧ UnpackedFloat.unpack f (pack f a) = .infinity .positive ∨
      u ≤ -ceiling f ∧ UnpackedFloat.unpack f (pack f a) = .infinity .negative := by
  cases ha with
  | zero s =>
    refine .inl ⟨?_, unpack_packedZero⟩
    rw [abs_zero, ceiling]
    positivity
  | finite s m e pos canonical =>
    rcases le_or_gt e (maxExponent f) with most | large
    · refine .inl ⟨?_, unpack_pack canonical most pos⟩
      have short : (m : ℚ) < 2 ^ f.mantissaBits := by exact_mod_cast canonical.short
      have power : (2 : ℚ) ^ e ≤ 2 ^ maxExponent f := zpow_le_zpow_right₀ one_le_two most
      rw [abs_apply s m (by positivity)]
      exact mul_lt_mul short power (by positivity) (by positivity)
    · have full : (2 : ℚ) ^ (f.mantissaBits - 1) ≤ m := by
        exact_mod_cast canonical.full (exponents.trans_lt large)
      have magnitude : ceiling f ≤ m * 2 ^ e :=
        calc ceiling f ≤ 2 ^ (f.mantissaBits - 1) * 2 ^ e := two_pow_mantissaBits_mul_le large
          _ ≤ m * 2 ^ e := by gcongr
      rw [unpack_pack_of_large large]
      cases s with
      | positive => exact .inr (.inl ⟨magnitude, rfl⟩)
      | negative =>
        rw [negative_apply]
        exact .inr (.inr ⟨neg_le_neg magnitude, rfl⟩)

/-- A number of the format that is not too large survives packing. -/
theorem unpack_pack_of_stands (exponents : f.minExponent ≤ maxExponent f) (ha : Stands f a u)
    (bounded : |u| < ceiling f) : UnpackedFloat.unpack f (pack f a) = a := by
  obtain ⟨above, below⟩ := abs_lt.1 bounded
  rcases unpack_pack_cases exponents ha with ⟨-, kept⟩ | ⟨large, -⟩ | ⟨large, -⟩
  · exact kept
  · exact absurd below (not_lt.2 large)
  · exact absurd above (not_lt.2 large)

theorem le_infinity_positive (number : a ≠ .notANumber) :
    UnpackedFloat.le a (.infinity .positive) = true := by
  cases a with
  | notANumber => exact absurd rfl number
  | zero s => rfl
  | infinity s => cases s <;> rfl
  | finite s m e pos => rfl

theorem infinity_negative_le (number : a ≠ .notANumber) :
    UnpackedFloat.le (.infinity .negative) a = true := by
  cases a with
  | notANumber => exact absurd rfl number
  | zero s => rfl
  | infinity s => cases s <;> rfl
  | finite s m e pos => rfl

theorem ne_notANumber_of_le {b : UnpackedFloat} (h : UnpackedFloat.le a b = true) :
    a ≠ .notANumber ∧ b ≠ .notANumber := by
  constructor
  · rintro rfl
    cases b <;> cases h
  · rintro rfl
    cases a <;> cases h

theorem eq_infinity_of_le (h : UnpackedFloat.le (.infinity .positive) a = true) :
    a = .infinity .positive := by
  cases a with
  | infinity s =>
    cases s with
    | positive => rfl
    | negative => cases h
  | _ => cases h

theorem eq_infinity_of_ge (h : UnpackedFloat.le a (.infinity .negative) = true) :
    a = .infinity .negative := by
  cases a with
  | infinity s =>
    cases s with
    | positive => cases h
    | negative => rfl
  | _ => cases h

theorem unpack_pack_ne_notANumber (exponents : f.minExponent ≤ maxExponent f)
    (ha : Stands f a u) : UnpackedFloat.unpack f (pack f a) ≠ .notANumber := by
  rcases unpack_pack_cases exponents ha with ⟨-, kept⟩ | ⟨-, kept⟩ | ⟨-, kept⟩
  · rw [kept]
    cases ha <;> nofun
  · rw [kept]
    nofun
  · rw [kept]
    nofun

/-- Packing keeps the order. -/
theorem le_unpack_pack {b : UnpackedFloat} {v : ℚ} (exponents : f.minExponent ≤ maxExponent f)
    (ha : Stands f a u) (hb : Stands f b v) (le : u ≤ v) :
    UnpackedFloat.le (UnpackedFloat.unpack f (pack f a)) (UnpackedFloat.unpack f (pack f b)) =
      true := by
  have positive : 0 < ceiling f := by
    rw [ceiling]
    positivity
  rcases unpack_pack_cases exponents ha with ⟨fits, one⟩ | ⟨large, one⟩ | ⟨large, one⟩
  · obtain ⟨above, below⟩ := abs_lt.1 fits
    rcases unpack_pack_cases exponents hb with ⟨-, other⟩ | ⟨-, other⟩ | ⟨large', -⟩
    · rw [one, other]
      exact (le_iff_of_stands ha hb).2 le
    · rw [other]
      exact le_infinity_positive (unpack_pack_ne_notANumber exponents ha)
    · linarith
  · rcases unpack_pack_cases exponents hb with ⟨fits', -⟩ | ⟨-, other⟩ | ⟨large', -⟩
    · linarith [(abs_lt.1 fits').2]
    · rw [one, other]
      rfl
    · linarith
  · rw [one]
    exact infinity_negative_le (unpack_pack_ne_notANumber exponents hb)

/-! ## Numbers that fit -/

/-- The number is one of the format's, and no larger than its finite numbers are. -/
structure Fits (f : Format) (q : ℚ) : Prop where
  grid : OnGrid f q
  bounded : |q| < 2 ^ f.mantissaBits * 2 ^ maxExponent f

theorem fits_of_eq {q : ℚ} (m e : Int) (short : |m| < 2 ^ f.mantissaBits)
    (least : f.minExponent ≤ e) (most : e ≤ maxExponent f) (value : q = m * 2 ^ e) : Fits f q where
  grid := ⟨m, e, short, least, value⟩
  bounded := by
    have magnitude : (|m| : ℚ) < 2 ^ f.mantissaBits := by exact_mod_cast short
    have power : (2 : ℚ) ^ e ≤ 2 ^ maxExponent f := zpow_le_zpow_right₀ one_le_two most
    have positive : (0 : ℚ) < 2 ^ e := by positivity
    rw [value, abs_mul, abs_of_pos positive]
    exact mul_lt_mul magnitude power (by positivity) (by positivity)

theorem Fits.neg {q : ℚ} (h : Fits f q) : Fits f (-q) where
  grid := h.grid.neg
  bounded := by
    rw [abs_neg]
    exact h.bounded

section

variable {q lo hi : ℚ}

/-- A rounded result is packed without a loss if its bounds fit. -/
theorem exists_stands_pack (exponents : f.minExponent ≤ maxExponent f)
    (rounded : IsRounded f q a) (low : Fits f lo) (high : Fits f hi)
    (below : lo ≤ q) (above : q ≤ hi) :
    ∃ w, Stands f (UnpackedFloat.unpack f (pack f a)) w ∧ lo ≤ w ∧ w ≤ hi := by
  obtain ⟨w, value, between⟩ := rounded
  have least := (between lo low.grid).1 below
  have most := (between hi high.grid).2 above
  have bounded : |w| < 2 ^ f.mantissaBits * 2 ^ maxExponent f :=
    (abs_le_max_abs_abs least most).trans_lt (max_lt low.bounded high.bounded)
  refine ⟨w, ?_, least, most⟩
  rwa [unpack_pack_of_stands exponents value bounded]

/-- Nor does packing once more lose anything. -/
theorem exists_stands_pack_pack (exponents : f.minExponent ≤ maxExponent f)
    (rounded : IsRounded f q a) (low : Fits f lo) (high : Fits f hi)
    (below : lo ≤ q) (above : q ≤ hi) :
    ∃ w, Stands f (UnpackedFloat.unpack f (pack f (UnpackedFloat.unpack f (pack f a)))) w ∧
      lo ≤ w ∧ w ≤ hi := by
  obtain ⟨_, packed, least, most⟩ := exists_stands_pack exponents rounded low high below above
  exact exists_stands_pack exponents packed.roundsTo.isRounded low high least most

end

end KanaVoice.Rounding
