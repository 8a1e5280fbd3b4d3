import KanaVoice.Inference.Backend
import KanaVoice.Proofs.Single.Order
import KanaVoice.Proofs.Sound.Repetition
set_option autoImplicit false

/-!
# Limits of silence and of frames

No number in a query makes a sound or a phoneme grow without bounds, but all phonemes together may
ask for more frames than there can be room for.
-/

namespace KanaVoice

open Single (count toNatRounded)

/-! ## Limits of silence and of lengths

What is asked to be longer than a minute is refused, before it is counted; the samples and frames of
everything else are at most those of a minute, since a factor and rounding keep the order, so that
they are counted in full. -/

/-! ### Counting within a limit -/

/-- The number is counted for `n`, which is no more than `most`, under any limit from `most` on. -/
structure CountsWithin (most : Nat) (x : Float32) (n : Nat) : Prop where
  le : n ≤ most
  full : ∀ limit, most ≤ limit → toNatRounded limit x = n

theorem exists_countsWithin {most : Nat} {x : Float32} (bounded : count x ≤ most) :
    ∃ n, CountsWithin most x n := by
  obtain ⟨n, le, full⟩ := Single.exists_toNatRounded_eq bounded
  exact ⟨n, le, full⟩

/-! ### Silence -/

/-- Silence of so many seconds has so many samples: no more than a minute has, and none if the length
is zero, negative or a NaN. -/
structure SilenceOf (seconds : Float32) (samples : Nat) : Prop where
  counted : CountsWithin 2880000 (seconds * Single.ofNat nativeRate) samples
  none : (seconds == 0) = true ∨ seconds < 0 ∨ seconds.isNaN = true → samples = 0

theorem rate_pos : 0 < Single.ofNat nativeRate := by decide +kernel

theorem count_silence_le {seconds : Float32} (accepted : ¬ 60 < seconds) :
    count (seconds * Single.ofNat nativeRate) ≤ (2880000 : Nat) := by
  have minute : toNatRounded 2880001 (60 * Single.ofNat nativeRate) = 2880000 := by decide +kernel
  refine Single.count_mul_le 60 rfl rate_pos (by decide +kernel) accepted ?_
  rw [Single.count_eq_of_lt (minute.trans_lt (by decide)), minute]

theorem exists_silenceSamples {seconds : Float32} (accepted : ¬ 60 < seconds) :
    ∃ samples, SilenceOf seconds samples ∧
      ∀ what, silenceSamples what seconds = .ok samples := by
  obtain ⟨samples, counted⟩ := exists_countsWithin (count_silence_le accepted)
  refine ⟨samples, ⟨counted, fun nothing => ?_⟩, fun what => ?_⟩
  · rw [← counted.full _ le_rfl]
    exact Single.toNatRounded_of_not_pos _
      (Single.not_pos_mul (Single.not_pos_iff.2 nothing) rate_pos)
  · rw [silenceSamples, maxSilenceSeconds, if_neg accepted, counted.full _ (by decide)]

theorem silenceSamples_of_long {seconds : Float32} (long : 60 < seconds) (what : String) :
    silenceSamples what seconds = .error (.outOfRange what seconds) :=
  if_pos long

/-- Silence of more than a minute is refused, that before the wave first.  Otherwise there is silence
on both sides of the wave. -/
structure PadsSilence (wave : List Float32) (pre post : Float32) : Prop where
  longBefore : 60 < pre →
    padSilence wave pre post = .error (.outOfRange "prePhonemeLength" pre)
  longAfter : ¬ 60 < pre → 60 < post →
    padSilence wave pre post = .error (.outOfRange "postPhonemeLength" post)
  padded : ¬ 60 < pre → ¬ 60 < post → ∃ before after, SilenceOf pre before ∧ SilenceOf post after ∧
    padSilence wave pre post =
      .ok (List.replicate before 0 ++ wave ++ List.replicate after 0)

theorem padsSilence (wave : List Float32) (pre post : Float32) : PadsSilence wave pre post where
  longBefore long := by
    rw [padSilence, silenceSamples_of_long long]
    rfl
  longAfter accepted long := by
    obtain ⟨before, -, counted⟩ := exists_silenceSamples accepted
    rw [padSilence, counted, silenceSamples_of_long long]
    rfl
  padded accepted accepted' := by
    obtain ⟨before, silence, counted⟩ := exists_silenceSamples accepted
    obtain ⟨after, silence', counted'⟩ := exists_silenceSamples accepted'
    refine ⟨before, after, silence, silence', ?_⟩
    rw [padSilence, counted, counted']
    rfl

/-! ### Frames -/

theorem count_frames_le {seconds : Float32} (inRange : InRange seconds) :
    count (seconds * frameRate) ≤ (11250 : Nat) := by
  have minute : toNatRounded 11251 (60 * frameRate) = 11250 := by decide +kernel
  refine Single.count_mul_le 60 rfl frameRate_pos (by decide +kernel) inRange.2 ?_
  rw [Single.count_eq_of_lt (minute.trans_lt (by decide)), minute]

theorem countsWithin_frameCount {seconds : Float32} (inRange : InRange seconds) :
    CountsWithin 11250 (seconds * frameRate) (frameCount seconds) := by
  obtain ⟨n, counted⟩ := exists_countsWithin (count_frames_le inRange)
  rw [frameCount, counted.full _ (by decide)]
  exact counted

/-- The frames of every length that is regulated are counted in full, a negative length has none, and
a longer one has no fewer than a shorter one. -/
structure CountsFrames : Prop where
  accepted : ∀ (m frames : Matrix) (durations : List Float32),
    m.regulate durations = .ok frames → ∀ seconds ∈ durations,
      CountsWithin 11250 (seconds * frameRate) (frameCount seconds)
  negative : ∀ seconds : Float32, seconds < 0 → frameCount seconds = 0
  mono : ∀ seconds longer : Float32, seconds ≤ longer → frameCount seconds ≤ frameCount longer

theorem countsFrames : CountsFrames where
  accepted _ _ _ regulated seconds mem :=
    countsWithin_frameCount ((Matrix.regulate_eq_ok_iff.1 regulated).2.1 seconds mem)
  negative _ negative := frameCount_of_not_pos (Single.not_pos_iff.2 (.inr (.inl negative)))
  mono _ _ longer := Single.toNatRounded_mono _
    (Single.mul_le_mul_right frameRate_pos (by decide +kernel) longer)

example : frameCount 60 = 11250 := by decide +kernel

/-- Whatever numbers a query has, neither silence nor frames are more than those of a minute. -/
theorem padsSilence_and_countsFrames :
    (∀ wave pre post, PadsSilence wave pre post) ∧ CountsFrames :=
  ⟨padsSilence, countsFrames⟩

/-! ## Room for the frames

Regulation takes room for all frames at once, after it has made sure that their number and that of
their values can be counted.  What can be counted is twice what there can be room for: a machine word
counts without a sign, and sizes have one.  So between the two limits regulation goes on where it
should have refused.  No row gets more frames than those of a minute, so a matrix whose cells are few
enough to be held anywhere is far from either limit; a single value that is seen as a row of any width
is not. -/

/-- There can be room for so many rows and columns: the product of those that are not zero fits in a
signed machine word. -/
def HasRoom (rows columns : Nat) : Prop := cells ([rows, columns].filter (· ≠ 0)) ≤ maxSize

instance (rows columns : Nat) : Decidable (HasRoom rows columns) :=
  inferInstanceAs (Decidable (_ ≤ _))

theorem hasRoom_iff {rows columns : Nat} :
    HasRoom rows columns ↔ max 1 rows * max 1 columns ≤ maxSize := by
  unfold HasRoom
  cases rows <;> cases columns <;> simp [cells]

/-! ### Frames of all phonemes -/

/-- How many frames phonemes of these lengths have. -/
def frameTotal (durations : List Float32) : Nat := (durations.map frameCount).sum

theorem frameTotal_le {durations : List Float32} (inRange : ∀ s ∈ durations, InRange s) :
    frameTotal durations ≤ durations.length * 11250 := by
  have each : ∀ n ∈ durations.map frameCount, n ≤ 11250 := by
    simpa using fun s mem => (countsWithin_frameCount (inRange s mem)).le
  have sum := List.sum_le_card_nsmul _ _ each
  rwa [List.length_map, smul_eq_mul] at sum

/-- A matrix whose cells are few enough leaves room for its frames. -/
theorem hasRoom_frameTotal {durations : List Float32} {columns : Nat}
    (inRange : ∀ s ∈ durations, InRange s)
    (few : max 1 durations.length * max 1 columns ≤ maxSize / 11250) :
    HasRoom (frameTotal durations) columns := by
  have rows : max 1 (frameTotal durations) ≤ 11250 * max 1 durations.length := by
    have total := frameTotal_le inRange
    omega
  rw [hasRoom_iff]
  calc max 1 (frameTotal durations) * max 1 columns
      ≤ 11250 * max 1 durations.length * max 1 columns := Nat.mul_le_mul_right _ rows
    _ = 11250 * (max 1 durations.length * max 1 columns) := Nat.mul_assoc ..
    _ ≤ 11250 * (maxSize / 11250) := Nat.mul_le_mul_left _ few
    _ ≤ maxSize := Nat.mul_div_le maxSize 11250

/-! ### Guards -/

namespace Matrix

variable {m frames : Matrix} {durations : List Float32}

/-- The frames and their values can be counted, and there can be no room for them. -/
structure Overflows (m : Matrix) (durations : List Float32) : Prop where
  aligned : durations.length = m.rows.length
  inRange : ∀ s ∈ durations, InRange s
  frames : frameTotal durations < countBound
  values : frameTotal durations * m.columns < countBound
  large : maxSize < frameTotal durations * m.columns

theorem shape_of_regulate (regulated : m.regulate durations = .ok frames) :
    frames.rows.length = frameTotal durations ∧ frames.columns = m.columns :=
  ⟨length_rows_of_regulate regulated, (rows_of_regulate regulated).1⟩

theorem exists_regulate_iff : (∃ frames, m.regulate durations = .ok frames) ↔
    durations.length = m.rows.length ∧ (∀ s ∈ durations, InRange s) ∧
    frameTotal durations < countBound ∧ frameTotal durations * m.columns < countBound := by
  constructor
  · rintro ⟨frames, regulated⟩
    obtain ⟨aligned, inRange, rows, values, -⟩ := regulate_eq_ok_iff.1 regulated
    exact ⟨aligned, inRange, rows, values⟩
  · rintro ⟨aligned, inRange, rows, values⟩
    exact exists_regulate aligned inRange rows values

theorem not_overflows_iff : (∀ frames, m.regulate durations = .ok frames →
    frames.rows.length * frames.columns ≤ maxSize) ↔ ¬ m.Overflows durations := by
  constructor
  · intro fits overflow
    obtain ⟨frames, regulated⟩ := exists_regulate_iff.2
      ⟨overflow.aligned, overflow.inRange, overflow.frames, overflow.values⟩
    obtain ⟨rows, columns⟩ := shape_of_regulate regulated
    have small := fits frames regulated
    rw [rows, columns] at small
    exact absurd overflow.large (Nat.not_lt.2 small)
  · intro safe frames regulated
    obtain ⟨rows, columns⟩ := shape_of_regulate regulated
    obtain ⟨aligned, inRange, few, values⟩ := exists_regulate_iff.1 ⟨frames, regulated⟩
    rw [rows, columns]
    by_contra large
    exact safe ⟨aligned, inRange, few, values, Nat.not_le.1 large⟩

/-- What the guards of regulation are good for.  They let pass what can be counted, for which there
can be room unless it is beyond the limit of signed machine words. -/
structure GuardsSize (m : Matrix) (durations : List Float32) : Prop where
  /-- What does not pass is refused for a shape or for a length. -/
  refused : ∀ fault, m.regulate durations = .error fault →
    (∃ cause, fault = .shape cause) ∨ ∃ s, fault = .outOfRange "phoneme duration" s
  passes_iff : (∃ frames, m.regulate durations = .ok frames) ↔
    durations.length = m.rows.length ∧ (∀ s ∈ durations, InRange s) ∧
    frameTotal durations < countBound ∧ frameTotal durations * m.columns < countBound
  shape : ∀ frames, m.regulate durations = .ok frames →
    frames.rows.length = frameTotal durations ∧ frames.columns = m.columns
  /-- Values of frames that pass are no more than a signed machine word holds, unless there is an
  overflow that the guards do not see. -/
  sufficient_iff : (∀ frames, m.regulate durations = .ok frames →
    frames.rows.length * frames.columns ≤ maxSize) ↔ ¬ m.Overflows durations
  /-- There is none where the matrix itself is far enough from the limit. -/
  room : max 1 m.rows.length * max 1 m.columns ≤ maxSize / 11250 →
    ∀ frames, m.regulate durations = .ok frames → HasRoom frames.rows.length frames.columns

theorem guardsSize (m : Matrix) (durations : List Float32) : GuardsSize m durations where
  refused _ failed := (failsOnly_regulate m durations).fault failed
  passes_iff := exists_regulate_iff
  shape _ := shape_of_regulate
  sufficient_iff := not_overflows_iff
  room few frames regulated := by
    obtain ⟨aligned, inRange, -⟩ := exists_regulate_iff.1 ⟨frames, regulated⟩
    obtain ⟨rows, columns⟩ := shape_of_regulate regulated
    rw [rows, columns]
    exact hasRoom_frameTotal inRange (aligned.symm ▸ few)

/-- A value that is seen as a row of 2^62 has a shape that can be; three frames of it pass the
guards, and there is no room for them. -/
theorem regulate_wideRow :
    HasRoom (zeros 1 4611686018427387904).rows.length (zeros 1 4611686018427387904).columns ∧
    ∃ frames, (zeros 1 4611686018427387904).regulate [0.016] = .ok frames ∧
      maxSize < frames.rows.length * frames.columns ∧
      ¬ HasRoom frames.rows.length frames.columns := by
  have total : frameTotal [0.016] = 3 := by decide +kernel
  have one : (zeros 1 4611686018427387904).rows.length = 1 := List.length_replicate ..
  have wide : (zeros 1 4611686018427387904).columns = 4611686018427387904 := rfl
  obtain ⟨frames, regulated⟩ : ∃ frames,
      (zeros 1 4611686018427387904).regulate [0.016] = .ok frames := by
    rw [exists_regulate_iff, one, total, wide]
    exact ⟨rfl, by decide +kernel, by decide, by decide⟩
  obtain ⟨rows, columns⟩ := shape_of_regulate regulated
  rw [one, wide]
  refine ⟨by decide, frames, regulated, ?_⟩
  rw [rows, columns, total, wide]
  exact ⟨by decide, by decide⟩

end Matrix

end KanaVoice
