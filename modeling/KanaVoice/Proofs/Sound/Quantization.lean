import KanaVoice.Proofs.Single.Negation
import KanaVoice.Sound.Wav
set_option autoImplicit false

/-!
# Sixteen-bit samples of any numbers

A sample is a product that is cut off at one on either side, scaled and rounded.  Each of these steps
keeps the order and commutes with negation, so a sample does: the louder number never gives the
lower sample, and the negated number gives the negated sample.  The ends of the scale are what one
and minus one give, so that rounding to sixteen bits never cuts anything off and the lowest
sixteen-bit number is not used.
-/

namespace KanaVoice

open Single (toIntRounded)

section

variable {p q : Float32}

/-! ## Clipping -/

/-- What is clipped lies between the ends. -/
theorem clip_mem (number : p.isNaN = false) : -1 ≤ clip p ∧ clip p ≤ 1 := by
  rw [clip]
  split
  case isTrue => decide
  case isFalse least =>
    split
    case isTrue => decide
    case isFalse most =>
      exact ⟨Single.le_of_not_lt rfl number least, Single.le_of_not_lt number rfl most⟩

theorem one_le_clip (high : 1 ≤ p) : 1 ≤ clip p := by
  have least : ¬ p < -1 := Single.not_lt_of_le (Single.le_trans (by decide) high)
  rw [clip, if_neg least]
  split
  · decide
  · exact high

theorem clip_mono (le : p ≤ q) : clip p ≤ clip q := by
  obtain ⟨number, number'⟩ := Single.isNaN_of_le le
  by_cases low : p < -1
  · rw [clip, if_pos low]
    exact (clip_mem number').1
  by_cases high : 1 < q
  · have upper : clip q = 1 := by
      rw [clip, if_neg (Single.not_lt_of_le (Single.le_trans (by decide) (Single.le_of_lt high))),
        if_pos high]
    rw [upper]
    exact (clip_mem number).2
  -- Neither number is cut off on the side of the other one, so that both stay as they are.
  have least : -1 ≤ p := Single.le_of_not_lt rfl number low
  have most : q ≤ 1 := Single.le_of_not_lt number' rfl high
  rw [clip, if_neg low, if_neg (Single.not_lt_of_le (Single.le_trans le most)), clip,
    if_neg (Single.not_lt_of_le (Single.le_trans least le)), if_neg high]
  exact le

theorem clip_neg (p : Float32) : clip (-p) = -clip p := by
  have low : -p < -1 ↔ 1 < p := Single.neg_lt_neg_iff
  have high : 1 < -p ↔ p < -1 := by
    rw [← Single.neg_lt_neg_iff, Single.neg_neg]
  rw [clip, clip]
  simp only [low, high]
  split
  case isTrue above =>
    have least : ¬ p < -1 :=
      Single.not_lt_of_le (Single.le_trans (by decide) (Single.le_of_lt above))
    rw [if_neg least]
  case isFalse =>
    split
    · exact (Single.neg_neg 1).symm
    · rfl

theorem clip_of_isNaN (nan : p.isNaN = true) : clip p = p := by
  have unordered {q : Float32} (ordered : p ≤ q ∨ q ≤ p) : False := by
    have number : p.isNaN = false := by
      rcases ordered with le | le
      · exact (Single.isNaN_of_le le).1
      · exact (Single.isNaN_of_le le).2
    rw [nan] at number
    cases number
  rw [clip, if_neg fun low => unordered (.inl (Single.le_of_lt low)),
    if_neg fun high => unordered (.inr (Single.le_of_lt high))]

/-! ## Rounding to the scale -/

/-- A clipped product on the scale of the samples. -/
def scaled (p : Float32) : Float32 := clip p * Single.ofNat maxPcm

theorem maxPcm_pos : 0 < Single.ofNat maxPcm := by decide +kernel

theorem maxPcm_isFinite : (Single.ofNat maxPcm).isFinite = true := by decide +kernel

theorem scaled_mono (le : p ≤ q) : scaled p ≤ scaled q :=
  Single.mul_le_mul_right maxPcm_pos maxPcm_isFinite (clip_mono le)

theorem scaled_neg (p : Float32) : scaled (-p) = -scaled p := by
  rw [scaled, clip_neg, Single.neg_mul]
  rfl

theorem isNaN_scaled (nan : p.isNaN = true) : (scaled p).isNaN = true := by
  rw [scaled, clip_of_isNaN nan]
  exact Single.isNaN_mul nan _

/-- The sample of a product, with room for more than sixteen bits on either side. -/
def level (p : Float32) : Int := toIntRounded (maxPcm + 1) (scaled p)

theorem level_of_isNaN (nan : p.isNaN = true) : level p = 0 :=
  Single.toIntRounded_of_isNaN _ (isNaN_scaled nan)

theorem level_mono (le : p ≤ q) : level p ≤ level q :=
  Single.toIntRounded_mono _ (scaled_mono le)

/-- The ends of the scale. -/
theorem toIntRounded_ends :
    toIntRounded (maxPcm + 1) (1 * Single.ofNat maxPcm) = 32767 ∧
      toIntRounded (maxPcm + 1) (-1 * Single.ofNat maxPcm) = -32767 := by
  decide +kernel

theorem level_mem (p : Float32) : -32767 ≤ level p ∧ level p ≤ 32767 := by
  cases number : p.isNaN with
  | true =>
    rw [level_of_isNaN number]
    decide
  | false =>
    obtain ⟨least, most⟩ := clip_mem number
    rw [← toIntRounded_ends.2, ← toIntRounded_ends.1]
    exact ⟨Single.toIntRounded_mono _ (Single.mul_le_mul_right maxPcm_pos maxPcm_isFinite least),
      Single.toIntRounded_mono _ (Single.mul_le_mul_right maxPcm_pos maxPcm_isFinite most)⟩

theorem level_of_one_le (high : 1 ≤ p) : level p = 32767 := by
  have most := (level_mem p).2
  have least := Single.toIntRounded_mono (maxPcm + 1)
    (Single.mul_le_mul_right maxPcm_pos maxPcm_isFinite (one_le_clip high))
  rw [toIntRounded_ends.1] at least
  exact le_antisymm most least

theorem level_neg (p : Float32) : level (-p) = -level p := by
  have least := (level_mem p).1
  have least' := (level_mem (-p)).1
  have beyond : ((maxPcm + 1 : Nat) : Int) = 32768 := rfl
  rw [level, scaled_neg] at least'
  rw [level, scaled_neg]
  rw [level] at least
  exact Single.toIntRounded_neg (by omega) (by omega)

theorem level_of_le_neg_one (low : p ≤ -1) : level p = -32767 := by
  have high : 1 ≤ -p := by
    have turned := Single.neg_le_neg low
    rwa [Single.neg_neg] at turned
  have top := level_of_one_le high
  rw [level_neg] at top
  omega

theorem level_of_zero (zero : (p == 0) = true) : level p = 0 := by
  have same : p ≤ 0 ∧ 0 ≤ p := by
    obtain ⟨s, isZero⟩ := Single.beq_zero_iff.1 zero
    rw [Single.le_iff, Single.le_iff, Single.zero_unpacked, isZero]
    exact ⟨rfl, rfl⟩
  have middle : level 0 = 0 := by decide +kernel
  have above := level_mono same.1
  have below := level_mono same.2
  omega

/-- No limit from the largest sample on cuts anything off. -/
theorem toIntRounded_scaled {limit : Nat} (enough : maxPcm ≤ limit) (p : Float32) :
    toIntRounded limit (scaled p) = level p := by
  obtain ⟨least, most⟩ := level_mem p
  have largest : maxPcm = 32767 := rfl
  rw [level] at least most ⊢
  rcases enough.eq_or_lt with same | more
  · have cut := Single.toIntRounded_of_le (Nat.le_add_right maxPcm 1) (scaled p)
    rw [← same]
    omega
  · have beyond : maxPcm + 1 ≤ limit := more
    have cut := Single.toIntRounded_of_le beyond (scaled p)
    omega

end

/-! ## Samples -/

section

variable {sample volume : Float32}

theorem toInt_quantize (sample volume : Float32) :
    (quantize sample volume).toInt = level (sample * volume) := by
  obtain ⟨least, most⟩ := level_mem (sample * volume)
  rw [quantize, ← scaled, toIntRounded_scaled le_rfl]
  exact Int16.toInt_ofInt_of_le (by omega) (by omega)

/-- A volume that is not negative keeps the order of samples.  At volume zero every sample is zero,
that of an infinity included, whose product is a NaN. -/
theorem level_mul_mono (nonneg : 0 ≤ volume) (finite : volume.isFinite = true) {louder : Float32}
    (le : sample ≤ louder) : level (sample * volume) ≤ level (louder * volume) := by
  by_cases pos : 0 < volume
  · exact level_mono (Single.mul_le_mul_right pos finite le)
  have zero : (volume == 0) = true := by
    rcases Single.not_pos_iff.1 pos with zero | negative | nan
    · exact zero
    · exact absurd negative (Single.not_lt_of_le nonneg)
    · rw [(Single.isNaN_of_le nonneg).2] at nan
      cases nan
  have silent (x : Float32) : level (x * volume) = 0 := by
    rcases Single.mul_zero_or_isNaN x zero with none | nan
    · exact level_of_zero none
    · exact level_of_isNaN nan
  rw [silent, silent]

end

/-- What a sample at a volume becomes in sixteen bits. -/
structure Quantizes (sample volume : Float32) : Prop where
  /-- It is on the scale, whose ends are each other's negatives. -/
  inRange : -32767 ≤ (quantize sample volume).toInt ∧ (quantize sample volume).toInt ≤ 32767
  /-- It is the nearest integer of the clipped product on that scale, which needs no limit. -/
  whole : ∀ limit, maxPcm ≤ limit →
    toIntRounded limit (clip (sample * volume) * Single.ofNat maxPcm) =
      (quantize sample volume).toInt
  ofNaN : (sample * volume).isNaN = true → quantize sample volume = 0
  top : 1 ≤ sample * volume → (quantize sample volume).toInt = 32767
  bottom : sample * volume ≤ -1 → (quantize sample volume).toInt = -32767
  odd : quantize (-sample) volume = -quantize sample volume
  mono : 0 ≤ volume → volume.isFinite = true → ∀ louder, sample ≤ louder →
    (quantize sample volume).toInt ≤ (quantize louder volume).toInt

/-- Samples are clipped to a symmetric scale, by a map that is odd and keeps the order. -/
theorem quantizes (sample volume : Float32) : Quantizes sample volume where
  inRange := by
    rw [toInt_quantize]
    exact level_mem _
  whole limit enough := by
    rw [toInt_quantize]
    exact toIntRounded_scaled enough _
  ofNaN nan := by
    rw [← Int16.toInt_inj, toInt_quantize, level_of_isNaN nan]
    rfl
  top high := by
    rw [toInt_quantize, level_of_one_le high]
  bottom low := by
    rw [toInt_quantize, level_of_le_neg_one low]
  odd := by
    have turned : level (-sample * volume) = -level (sample * volume) := by
      rw [Single.neg_mul, level_neg]
    rw [quantize, quantize, ← scaled, ← scaled, toIntRounded_scaled le_rfl,
      toIntRounded_scaled le_rfl, turned, Int16.neg_ofInt]
  mono nonneg finite louder le := by
    rw [toInt_quantize, toInt_quantize]
    exact level_mul_mono nonneg finite le

example : (quantize 0.9 2).toInt = 32767 ∧ (quantize (-0.9) 2).toInt = -32767 ∧
    (quantize 0.5 1).toInt = 16384 := by
  decide +kernel

end KanaVoice
