import KanaVoice.Proofs.Single.PowerOfTwo
import KanaVoice.Proofs.Single.Sign
import KanaVoice.Proofs.Speech.Placement
set_option autoImplicit false

/-!
# Contours mora by mora

A contour is a stream over phoneme positions, but all that it says follows from the morae one by one
and from one number that they share: the mean of the pitches of all voiced positions, where a mora
with a consonant has two of these.  Summed over the morae in order, that mean is the same number, to
the bit, as summed over the positions.
-/

namespace KanaVoice

/-! ## Unvoiced morae

A mora without a pitch takes no part in the mean and is not moved by it, so that each of its
positions has its pitch times the factor of the pitch scale.  That is zero for every scale below 128,
whatever the other scales and the other morae are.  From 128 on the factor is infinite, and the product
is a NaN. -/

/-! ### Pitches that are not spread -/

/-- A pitch that is not voiced stays in its place. -/
theorem getElem?_spreadPitches {scale p : Float32} {pitches : List Float32} {i : Nat}
    (here : pitches[i]? = some p) (voiceless : ¬ 0 < p) :
    (spreadPitches scale pitches)[i]? = some p := by
  have skipped : isVoicedPitch p = false := decide_eq_false voiceless
  simp only [spreadPitches]
  split
  · rw [List.getElem?_map, here, Option.map_some, skipped]
    rfl
  · exact here

/-! ### Shifting -/

namespace ContourScales

theorem isFinite_shift_iff (scales : ContourScales) :
    scales.shift.isFinite = true ↔ scales.pitch < 128 :=
  Single.isFinite_exp2_iff scales.pitch

section

variable {scales : ContourScales} {pitch : Float32}

theorem mul_shift_of_lt (zero : (pitch == 0) = true) (small : scales.pitch < 128) :
    (pitch * scales.shift == 0) = true :=
  Single.mul_zero_of_isFinite zero (scales.isFinite_shift_iff.2 small)

theorem mul_shift_of_not_lt (zero : (pitch == 0) = true) (large : ¬ scales.pitch < 128) :
    (pitch * scales.shift).isNaN = true := by
  refine Single.isNaN_mul_of_not_isFinite zero ?_
  rw [← Bool.not_eq_true, scales.isFinite_shift_iff]
  exact large

theorem mul_shift_eq_zero_iff (zero : (pitch == 0) = true) :
    (pitch * scales.shift == 0) = true ↔ scales.pitch < 128 := by
  refine ⟨fun kept => ?_, mul_shift_of_lt zero⟩
  by_contra large
  have nan := mul_shift_of_not_lt zero large
  rw [Single.isNaN_of_zero kept] at nan
  cases nan

theorem isNaN_mul_shift_iff (zero : (pitch == 0) = true) :
    (pitch * scales.shift).isNaN = true ↔ ¬ scales.pitch < 128 := by
  refine ⟨fun nan small => ?_, mul_shift_of_not_lt zero⟩
  rw [Single.isNaN_of_zero (mul_shift_of_lt zero small)] at nan
  cases nan

theorem mul_shift_not_pos (zero : (pitch == 0) = true) : ¬ 0 < pitch * scales.shift := by
  by_cases small : scales.pitch < 128
  · exact Single.not_pos_of_zero (mul_shift_of_lt zero small)
  · exact Single.not_pos_of_isNaN (mul_shift_of_not_lt zero small)

end

end ContourScales

/-! ### Positions of a mora -/

theorem getElem?_flatMap_shiftedPitches (shift : Float32) (before after : List Mora) {m : Mora}
    {k : Nat} (own : k < m.phonemeCount) :
    ((before ++ m :: after).flatMap (Mora.shiftedPitches shift))[
      (before.map Mora.phonemeCount).sum + k]? = some (m.pitch * shift) := by
  rw [getElem?_flatMap_moras (Mora.length_shiftedPitches shift) before after own,
    Mora.getElem?_shiftedPitches shift own]

/-- Where a mora without a pitch stands, the contour is zero exactly for the pitch scales below 128,
and a NaN for all others. -/
theorem contour_of_zeroPitch (before after : List Mora) {m : Mora} (scales : ContourScales)
    (unvoiced : (m.pitch == 0) = true) {k : Nat} (own : k < m.phonemeCount) :
    ∃ p, (contour (before ++ m :: after) scales).pitches[
        (before.map Mora.phonemeCount).sum + k]? = some p ∧
      ((p == 0) = true ↔ scales.pitch < 128) ∧ (p.isNaN = true ↔ ¬ scales.pitch < 128) := by
  have here := getElem?_flatMap_shiftedPitches scales.shift before after own
  exact ⟨m.pitch * scales.shift,
    getElem?_spreadPitches here (ContourScales.mul_shift_not_pos unvoiced),
    ContourScales.mul_shift_eq_zero_iff unvoiced, ContourScales.isNaN_mul_shift_iff unvoiced⟩

/-- The vowel of a devoiced mora behind a voiced one, both raised by an octave and spread. -/
theorem contour_of_zeroPitch_raised :
    ((Mora.plain "シ" (some "sh") "I").pitch == 0) = true ∧
      1 < (Mora.plain "シ" (some "sh") "I").phonemeCount ∧
      ∃ p, (contour [{ Mora.plain "ア" none "a" with pitch := 5 },
          .plain "シ" (some "sh") "I"] { pitch := 1, intonation := 2 }).pitches[2]? = some p ∧
        (p == 0) = true := by
  have unvoiced : ((Mora.plain "シ" (some "sh") "I").pitch == 0) = true := by decide
  have own : 1 < (Mora.plain "シ" (some "sh") "I").phonemeCount := by decide
  obtain ⟨p, here, zero, -⟩ := contour_of_zeroPitch [{ Mora.plain "ア" none "a" with pitch := 5 }] []
    { pitch := 1, intonation := 2 } unvoiced own
  exact ⟨unvoiced, own, p, here, zero.2 (by decide)⟩

theorem contour_of_zeroPitch_at_128 :
    ∃ p, (contour [.plain "ア" none "a"] { pitch := 128 }).pitches = [p] ∧ (p == 0) = false ∧
      p.isNaN = true :=
  ⟨0 * Single.exp2 128, by decide, by decide, by decide⟩

/-! ## The mean -/

namespace Mora

/-- A sum of pitches with those of the mora's phonemes added to it, one after another, if they are
voiced. -/
def addVoiced (shift sum : Float32) (m : Mora) : Float32 :=
  let pitch := m.pitch * shift
  if 0 < pitch then
    if m.consonant.isSome then sum + pitch + pitch else sum + pitch
  else sum

/-- How many voiced phonemes the mora has: all of them or none. -/
def voicedCount (shift : Float32) (m : Mora) : Nat :=
  if 0 < m.pitch * shift then m.phonemeCount else 0

theorem filter_shiftedPitches (shift : Float32) (m : Mora) :
    (m.shiftedPitches shift).filter isVoicedPitch =
      List.replicate (m.voicedCount shift) (m.pitch * shift) := by
  have copies : m.shiftedPitches shift = List.replicate m.phonemeCount (m.pitch * shift) := by
    rw [shiftedPitches, List.map_const', length_phonemes]
  rw [copies, List.filter_replicate, isVoicedPitch, voicedCount]
  by_cases voiced : 0 < m.pitch * shift
  · rw [if_pos (decide_eq_true voiced), if_pos voiced]
  · rw [if_neg (by simpa using voiced), if_neg voiced]
    rfl

theorem foldl_replicate_voicedCount (shift sum : Float32) (m : Mora) :
    (List.replicate (m.voicedCount shift) (m.pitch * shift)).foldl (· + ·) sum =
      m.addVoiced shift sum := by
  by_cases voiced : 0 < m.pitch * shift
  · cases h : m.consonant <;> simp [voicedCount, addVoiced, phonemeCount, voiced, h]
  · simp [voicedCount, addVoiced, voiced]

end Mora

/-- The mean of the voiced pitches, summed mora by mora. -/
def sharedMean (shift : Float32) (moras : List Mora) : Float32 :=
  moras.foldl (Mora.addVoiced shift) 0 / Single.ofNat (moras.map (Mora.voicedCount shift)).sum

/-- The mean over the positions is the mean over the morae. -/
theorem meanPitch_flatMap (shift : Float32) (moras : List Mora) :
    meanPitch (moras.flatMap (Mora.shiftedPitches shift)) = sharedMean shift moras := by
  -- Both sums make the same additions in the same order, so that no law of arithmetic is needed.
  simp only [meanPitch, List.filter_flatMap, Mora.filter_shiftedPitches, List.foldl_flatMap,
    Mora.foldl_replicate_voicedCount, List.length_flatMap, List.length_replicate]
  rfl

example : sharedMean 1 [{ Mora.plain "カ" (some "k") "a" with pitch := 4 },
    { Mora.plain "ア" none "a" with pitch := 6 }, Mora.plain "ウ" none "U"] = 14 / 3 := by
  decide +kernel

/-! ## Spreading -/

section

variable {scale p : Float32} {pitches : List Float32}

/-- Equal pitches stay equal. -/
theorem exists_spreadPitches_eq_map (scale : Float32) (pitches : List Float32) :
    ∃ f, spreadPitches scale pitches = pitches.map f := by
  simp only [spreadPitches]
  split
  · exact ⟨_, rfl⟩
  · exact ⟨id, (List.map_id _).symm⟩

theorem spreadPitches_eq_self
    (kept : (scale == 1) = true ∨ (meanPitch pitches).isNaN = true) :
    spreadPitches scale pitches = pitches := by
  rw [spreadPitches]
  refine if_neg ?_
  rcases kept with one | nan
  · simp only [bne, one, Bool.not_true, Bool.and_false, Bool.false_eq_true, not_false_eq_true]
  · simp only [nan, Bool.not_true, Bool.false_and, Bool.false_eq_true, not_false_eq_true]

theorem getElem?_spreadPitches_of_pos {i : Nat} (here : pitches[i]? = some p) (voiced : 0 < p)
    (moved : (scale == 1) = false) (number : (meanPitch pitches).isNaN = false) :
    (spreadPitches scale pitches)[i]? =
      some ((p - meanPitch pitches) * scale + meanPitch pitches) := by
  have isVoiced : isVoicedPitch p = true := decide_eq_true voiced
  simp only [spreadPitches]
  rw [if_pos (by simp only [bne, moved, number, Bool.not_false, Bool.and_self]),
    List.getElem?_map, here, Option.map_some, if_pos isVoiced]

end

/-! ## Expansion -/

/-- The mora is one of the list, and its first phoneme is at `start`. -/
def Mora.StandsAt (m : Mora) (start : Nat) (moras : List Mora) : Prop :=
  ∃ before after, moras = before ++ m :: after ∧ start = (before.map Mora.phonemeCount).sum

theorem Mora.StandsAt.getElem?_flatMap {α : Type} {m : Mora} {start : Nat} {moras : List Mora}
    (stands : m.StandsAt start moras) {stream : Mora → List α}
    (lengths : ∀ m, (stream m).length = m.phonemeCount) {k : Nat} (own : k < m.phonemeCount) :
    (moras.flatMap stream)[start + k]? = (stream m)[k]? := by
  obtain ⟨before, after, rfl, rfl⟩ := stands
  exact getElem?_flatMap_moras lengths before after own

theorem Mora.StandsAt.mem {m : Mora} {start : Nat} {moras : List Mora}
    (stands : m.StandsAt start moras) : m ∈ moras := by
  obtain ⟨before, after, rfl, -⟩ := stands
  simp

theorem exists_standsAt {moras : List Mora} {position : Nat}
    (inside : position < (moras.map Mora.phonemeCount).sum) :
    ∃ (m : Mora) (start k : Nat),
      m.StandsAt start moras ∧ k < m.phonemeCount ∧ position = start + k := by
  induction moras generalizing position with
  | nil => cases inside
  | cons first rest ih =>
    rw [List.map_cons, List.sum_cons] at inside
    by_cases own : position < first.phonemeCount
    · exact ⟨first, 0, position, ⟨[], rest, rfl, rfl⟩, own, (Nat.zero_add _).symm⟩
    · obtain ⟨m, _, k, ⟨before, after, rfl, rfl⟩, own', same⟩ :=
        ih (show position - first.phonemeCount < _ by omega)
      refine ⟨m, _, k, ⟨first :: before, after, rfl, rfl⟩, own', ?_⟩
      rw [List.map_cons, List.sum_cons]
      omega

/-- Each length is that of its phoneme divided by a number. -/
def DividedBy (divisor : Float32) (moras : List Mora) (durations : List Float32) : Prop :=
  ∀ (m : Mora) start, m.StandsAt start moras →
    (m.consonant.isSome →
      durations[start]? = some (m.consonantLength.getD 0 / divisor)) ∧
    durations[m.vowelAt start]? = some (m.vowelLength / divisor)

/-- A contour as the expansion of its morae. -/
structure ExpandsMoras (moras : List Mora) (scales : ContourScales) (c : Contour) : Prop where
  /-- There is a pitch and a length for each phoneme. -/
  pitchCount : c.pitches.length = (moras.map Mora.phonemeCount).sum
  lengthCount : c.durations.length = (moras.map Mora.phonemeCount).sum
  /-- Every position is that of a phoneme of some mora. -/
  covered : ∀ position < (moras.map Mora.phonemeCount).sum, ∃ (m : Mora) (start k : Nat),
    m.StandsAt start moras ∧ k < m.phonemeCount ∧ position = start + k
  /-- A consonant has the pitch of its vowel. -/
  shared : ∀ (m : Mora) start, m.StandsAt start moras → m.consonant.isSome →
    ∃ p, c.pitches[start]? = some p ∧ c.pitches[start + 1]? = some p
  /-- Pitches are multiplied by two to the power of the scale.  One that is not positive stays like
  that. -/
  voiceless : ∀ (m : Mora) start k, m.StandsAt start moras → k < m.phonemeCount →
    ¬ 0 < m.pitch * Single.exp2 scales.pitch →
      c.pitches[start + k]? = some (m.pitch * Single.exp2 scales.pitch)
  /-- So do all of them if the scale of spreading is one or if nothing is voiced, -/
  shifted : (scales.intonation == 1) = true ∨
      (∀ m ∈ moras, ¬ 0 < m.pitch * Single.exp2 scales.pitch) →
    ∀ (m : Mora) start k, m.StandsAt start moras → k < m.phonemeCount →
      c.pitches[start + k]? = some (m.pitch * Single.exp2 scales.pitch)
  /-- and if the mean is not a number. -/
  unsettled : (sharedMean (Single.exp2 scales.pitch) moras).isNaN = true →
    ∀ (m : Mora) start k, m.StandsAt start moras → k < m.phonemeCount →
      c.pitches[start + k]? = some (m.pitch * Single.exp2 scales.pitch)
  /-- Else the positive ones are spread around the mean. -/
  spread : (scales.intonation == 1) = false →
    (sharedMean (Single.exp2 scales.pitch) moras).isNaN = false →
    ∀ (m : Mora) start k, m.StandsAt start moras → k < m.phonemeCount →
      0 < m.pitch * Single.exp2 scales.pitch →
      c.pitches[start + k]? =
        some ((m.pitch * Single.exp2 scales.pitch - sharedMean (Single.exp2 scales.pitch) moras) *
          scales.intonation + sharedMean (Single.exp2 scales.pitch) moras)
  /-- Lengths are divided by the speed if it is positive. -/
  divided : 0 < scales.speed → DividedBy scales.speed moras c.durations
  /-- Else they are divided by one. -/
  undivided : (scales.speed == 0) = true ∨ scales.speed < 0 ∨ scales.speed.isNaN = true →
    DividedBy 1 moras c.durations

section

variable {moras : List Mora} {scales : ContourScales} {m : Mora} {start k : Nat}
  (stands : m.StandsAt start moras) (own : k < m.phonemeCount)

include stands own

theorem getElem?_shiftedPitches_of_standsAt :
    (moras.flatMap (Mora.shiftedPitches scales.shift))[start + k]? =
      some (m.pitch * scales.shift) := by
  rw [stands.getElem?_flatMap (Mora.length_shiftedPitches scales.shift) own,
    Mora.getElem?_shiftedPitches scales.shift own]

theorem getElem?_pitches_of_not_pos (voiceless : ¬ 0 < m.pitch * scales.shift) :
    (contour moras scales).pitches[start + k]? = some (m.pitch * scales.shift) :=
  getElem?_spreadPitches (getElem?_shiftedPitches_of_standsAt stands own) voiceless

theorem getElem?_pitches_of_kept (kept : (scales.intonation == 1) = true ∨
    (sharedMean scales.shift moras).isNaN = true) :
    (contour moras scales).pitches[start + k]? = some (m.pitch * scales.shift) := by
  rw [← meanPitch_flatMap] at kept
  rw [contour, spreadPitches_eq_self kept]
  exact getElem?_shiftedPitches_of_standsAt stands own

theorem getElem?_pitches_of_pos (moved : (scales.intonation == 1) = false)
    (number : (sharedMean scales.shift moras).isNaN = false) (voiced : 0 < m.pitch * scales.shift) :
    (contour moras scales).pitches[start + k]? =
      some ((m.pitch * scales.shift - sharedMean scales.shift moras) * scales.intonation +
        sharedMean scales.shift moras) := by
  rw [← meanPitch_flatMap] at number ⊢
  exact getElem?_spreadPitches_of_pos (getElem?_shiftedPitches_of_standsAt stands own) voiced moved
    number

end

/-- All phonemes of a mora have one pitch. -/
theorem exists_pitch_of_standsAt {moras : List Mora} (scales : ContourScales) {m : Mora}
    {start : Nat} (stands : m.StandsAt start moras) :
    ∃ p, ∀ k < m.phonemeCount, (contour moras scales).pitches[start + k]? = some p := by
  obtain ⟨f, same⟩ := exists_spreadPitches_eq_map scales.intonation
    (moras.flatMap (Mora.shiftedPitches scales.shift))
  refine ⟨f (m.pitch * scales.shift), fun k own => ?_⟩
  rw [contour, same, List.getElem?_map, getElem?_shiftedPitches_of_standsAt stands own]
  rfl

theorem dividedBy_contour (moras : List Mora) (scales : ContourScales) :
    DividedBy scales.divisor moras (contour moras scales).durations := by
  intro m start stands
  have lengths (k : Nat) (own : k < m.phonemeCount) :
      (contour moras scales).durations[start + k]? = (m.scaledLengths scales.divisor)[k]? :=
    stands.getElem?_flatMap (Mora.length_scaledLengths scales.divisor) own
  cases h : m.consonant with
  | none =>
    have vowel := lengths 0 m.phonemeCount_pos
    simpa [Mora.scaledLengths, Mora.vowelAt, h] using vowel
  | some c =>
    have two := Mora.phonemeCount_of_consonant h
    have consonant := lengths 0 (by omega)
    have vowel := lengths 1 (by omega)
    simp only [Mora.scaledLengths, h, Option.isSome_some, if_true] at consonant vowel
    simp only [Mora.vowelAt, h, Option.isSome_some, if_true]
    exact ⟨fun _ => consonant, vowel⟩

/-- A contour is expanded mora by mora, with one mean for all of them. -/
theorem expandsMoras_contour (moras : List Mora) (scales : ContourScales) :
    ExpandsMoras moras scales (contour moras scales) := by
  constructor
  case pitchCount => exact length_pitches moras scales
  case lengthCount => exact length_durations moras scales
  case covered => exact fun position inside => exists_standsAt inside
  case shared =>
    intro m start stands consonant
    obtain ⟨c, h⟩ := Option.isSome_iff_exists.1 consonant
    have two := Mora.phonemeCount_of_consonant h
    obtain ⟨p, own⟩ := exists_pitch_of_standsAt scales stands
    exact ⟨p, own 0 (by omega), own 1 (by omega)⟩
  case voiceless =>
    exact fun m start k stands own voiceless => getElem?_pitches_of_not_pos stands own voiceless
  case shifted =>
    rintro (one | none) m start k stands own
    · exact getElem?_pitches_of_kept stands own (.inl one)
    · exact getElem?_pitches_of_not_pos stands own (none m stands.mem)
  case unsettled =>
    exact fun nan m start k stands own => getElem?_pitches_of_kept stands own (.inr nan)
  case spread =>
    exact fun moved number m start k stands own voiced =>
      getElem?_pitches_of_pos stands own moved number voiced
  case divided =>
    intro fast
    have divisor : scales.divisor = scales.speed := if_pos fast
    exact divisor ▸ dividedBy_contour moras scales
  case undivided =>
    intro slow
    have divisor : scales.divisor = 1 := if_neg (Single.not_pos_iff.2 slow)
    exact divisor ▸ dividedBy_contour moras scales

/-- A mora with a consonant and a higher one without, then one that is not voiced. -/
def risingMoras : List Mora :=
  [{ Mora.plain "カ" (some "k") "a" with
     consonantLength := some 0.5, vowelLength := 1, pitch := 1.5 },
   { Mora.plain "ア" none "a" with vowelLength := 1, pitch := 3 },
   Mora.plain "ウ" none "U"]

/-- Pitches twice as high, twice as far from their mean, and everything twice as fast. -/
def doublingScales : ContourScales where
  pitch := 1
  intonation := 2
  speed := 2

/-- The pitches 1.5, 1.5 and 3 are doubled first, so that their mean is 4. -/
theorem expandsMoras_contour_rising :
    ExpandsMoras risingMoras doublingScales (contour risingMoras doublingScales) ∧
      Single.exp2 doublingScales.pitch = 2 ∧ sharedMean 2 risingMoras = 4 ∧
      (contour risingMoras doublingScales).pitches = [2, 2, 8, 0] ∧
      (contour risingMoras doublingScales).durations = [0.25, 0.5, 0.5, 0] := by
  refine ⟨expandsMoras_contour risingMoras doublingScales, ?_, ?_, ?_, ?_⟩ <;> decide +kernel

end KanaVoice
