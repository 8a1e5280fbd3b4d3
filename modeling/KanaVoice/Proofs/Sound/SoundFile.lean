import KanaVoice.Fault
import KanaVoice.Proofs.Sound.Riff
set_option autoImplicit false

/-!
# Sound files of waves

A wave becomes a file of an output rate and of one channel or two.  Each sample stands in it so many
times in a row, which makes whole frames, so a writer that takes complete frames takes the file; and
reading it back gives the quantized wave, spread out.
-/

namespace KanaVoice

variable {wave : List Float32} {volume : Float32} {rate : UInt32} {stereo : Bool}

/-! ## Samples in a row -/

theorem length_pcmSamples (volume : Float32) (count : Nat) (wave : List Float32) :
    (pcmSamples volume count wave).length = wave.length * count := by
  induction wave with
  | nil => simp [pcmSamples]
  | cons sample rest ih =>
    unfold pcmSamples at ih ⊢
    rw [List.flatMap_cons, List.length_append, ih, List.length_replicate, List.length_cons,
      Nat.succ_mul, Nat.add_comm]

theorem getElem?_pcmSamples (volume : Float32) {count : Nat} (positive : 0 < count)
    (wave : List Float32) (k : Nat) :
    (pcmSamples volume count wave)[k]? = wave[k / count]?.map (quantize · volume) := by
  induction wave generalizing k with
  | nil => simp [pcmSamples]
  | cons sample rest ih =>
    unfold pcmSamples at ih ⊢
    rw [List.flatMap_cons]
    rcases Nat.lt_or_ge k count with within | behind
    · rw [List.getElem?_append_left (by simpa using within), List.getElem?_replicate_of_lt within,
        Nat.div_eq_of_lt within]
      rfl
    · obtain ⟨j, rfl⟩ := Nat.exists_eq_add_of_le behind
      rw [List.getElem?_append_right (by simp), List.length_replicate, Nat.add_sub_cancel_left, ih,
        Nat.add_div_left j positive, List.getElem?_cons_succ]

/-! ## Frames -/

theorem channelCount_eq (stereo : Bool) : channelCount stereo = 1 ∨ channelCount stereo = 2 := by
  cases stereo
  · exact .inl rfl
  · exact .inr rfl

theorem length_samples_ofWave :
    (Wav.ofWave wave volume rate stereo).samples.length =
      wave.length * repeatCount rate stereo :=
  length_pcmSamples volume _ wave

theorem dataLength_ofWave :
    (Wav.ofWave wave volume rate stereo).dataLength =
      2 * wave.length * repeatCount rate stereo := by
  rw [Wav.dataLength, length_samples_ofWave, Wav.bytesPerSample, Nat.mul_assoc]

theorem byteRate_ofWave :
    (Wav.ofWave wave volume rate stereo).byteRate = rate.toNat * 2 * channelCount stereo := by
  show rate.toNat * (channelCount stereo * 2) = _
  rw [Nat.mul_comm _ 2, Nat.mul_assoc]

/-- The file of a wave has whole frames. -/
theorem dvd_length_samples_ofWave :
    channelCount stereo ∣ (Wav.ofWave wave volume rate stereo).samples.length := by
  rw [length_samples_ofWave, repeatCount, ← Nat.mul_assoc]
  exact Nat.dvd_mul_left _ _

theorem wellFormed_ofWave (positive : 1 ≤ rate)
    (byteRate : rate.toNat * 2 * channelCount stereo < 2 ^ 32)
    (riffSize : 36 + 2 * wave.length * repeatCount rate stereo < 2 ^ 32) :
    (Wav.ofWave wave volume rate stereo).WellFormed where
  rate := UInt32.le_iff_toNat_le.1 positive
  channels := channelCount_eq stereo
  frames := dvd_length_samples_ofWave
  byteRate := by
    rw [byteRate_ofWave]
    exact byteRate
  riffSize := by
    rw [dataLength_ofWave]
    exact riffSize

/-! ## Files -/

/-- What a reader makes of the file of a wave. -/
structure IsSoundFile (wave : List Float32) (volume : Float32) (rate : UInt32) (stereo : Bool)
    (file : List UInt8) (samples : List Int16) : Prop where
  length : file.length = 44 + 2 * wave.length * repeatCount rate stereo
  /-- Every field of the header is as the samples have it. -/
  contents : Riff.read? file = some {
    riffSize := 36 + 2 * wave.length * repeatCount rate stereo
    format := {
      code := 1
      channels := channelCount stereo
      rate := rate.toNat
      byteRate := rate.toNat * 2 * channelCount stereo
      blockAlign := 2 * channelCount stereo
      bits := 16 }
    dataSize := 2 * wave.length * repeatCount rate stereo
    samples }
  count : samples.length = wave.length * repeatCount rate stereo
  sample : ∀ k, k < wave.length * repeatCount rate stereo →
    samples[k]? = wave[k / repeatCount rate stereo]?.map (quantize · volume)
  frames : channelCount stereo ∣ samples.length
  /-- Both channels have the same samples. -/
  sides : stereo = true → ∀ frame, samples[2 * frame]? = samples[2 * frame + 1]?
  /-- No sample is lost unless the rate is below the native one. -/
  recovered : 48000 ≤ rate → ∀ i,
    samples[repeatCount rate stereo * i]? = wave[i]?.map (quantize · volume)

theorem repeatCount_pos (h : 48000 ≤ rate) (stereo : Bool) : 0 < repeatCount rate stereo := by
  have native : nativeRate ≤ rate.toNat := UInt32.le_iff_toNat_le.1 h
  have ratio : 0 < rate.toNat / nativeRate := Nat.div_pos native (by decide)
  rcases channelCount_eq stereo with one | two
  · rw [repeatCount, one]
    exact Nat.mul_pos ratio (by decide)
  · rw [repeatCount, two]
    exact Nat.mul_pos ratio (by decide)

theorem isSoundFile_bytes_ofWave (h : (Wav.ofWave wave volume rate stereo).WellFormed) :
    IsSoundFile wave volume rate stereo (Wav.ofWave wave volume rate stereo).bytes
      (Wav.ofWave wave volume rate stereo).samples where
  length := by
    rw [Wav.length_bytes, dataLength_ofWave]
    rfl
  contents := by
    have blockAlign : (Wav.ofWave wave volume rate stereo).blockAlign = 2 * channelCount stereo :=
      Nat.mul_comm _ _
    rw [Wav.read?_bytes h, dataLength_ofWave, Wav.riffFormat, byteRate_ofWave, blockAlign]
    rfl
  count := length_samples_ofWave
  sample := by
    intro k within
    have positive : 0 < repeatCount rate stereo :=
      Nat.pos_of_mul_pos_left (Nat.zero_lt_of_lt within)
    exact getElem?_pcmSamples volume positive wave k
  frames := dvd_length_samples_ofWave
  sides := by
    rintro rfl frame
    have even : repeatCount rate true = rate.toNat / nativeRate * 2 := rfl
    show (pcmSamples volume (repeatCount rate true) wave)[_]? = (pcmSamples volume _ wave)[_]?
    rcases Nat.eq_zero_or_pos (rate.toNat / nativeRate) with zero | positive
    · rw [even, zero]
      simp [pcmSamples]
    · rw [even, getElem?_pcmSamples volume (by omega), getElem?_pcmSamples volume (by omega)]
      have frames : 2 * frame / (rate.toNat / nativeRate * 2) =
          (2 * frame + 1) / (rate.toNat / nativeRate * 2) := by
        rw [Nat.mul_comm _ 2, ← Nat.div_div_eq_div_mul, ← Nat.div_div_eq_div_mul]
        congr 1
        omega
      rw [frames]
  recovered := by
    intro native i
    have positive := repeatCount_pos native stereo
    show (pcmSamples volume (repeatCount rate stereo) wave)[_]? = _
    rw [getElem?_pcmSamples volume positive, Nat.mul_div_cancel_left i positive]

/-- The file of a wave is written, whatever writer takes complete sounds, and it reads back as the
wave. -/
theorem exists_isSoundFile {finish : Wav → Except Fault (List UInt8)}
    (canonical : ∀ w : Wav, w.WellFormed → finish w = .ok w.bytes) (wave : List Float32)
    (volume : Float32) {rate : UInt32} {stereo : Bool} (positive : 1 ≤ rate)
    (byteRate : rate.toNat * 2 * channelCount stereo < 2 ^ 32)
    (riffSize : 36 + 2 * wave.length * repeatCount rate stereo < 2 ^ 32) :
    ∃ file samples, finish (.ofWave wave volume rate stereo) = .ok file ∧
      IsSoundFile wave volume rate stereo file samples := by
  have wellFormed : (Wav.ofWave wave volume rate stereo).WellFormed :=
    wellFormed_ofWave positive byteRate riffSize
  exact ⟨_, _, canonical _ wellFormed, isSoundFile_bytes_ofWave wellFormed⟩

/-- A writer that refuses a sound whose last frame is not complete. -/
def finishFrames (w : Wav) : Except Fault (List UInt8) :=
  if w.channels ∣ w.samples.length then .ok w.bytes
  else .error (.wav (.reported "the last frame is not complete"))

theorem exists_isSoundFile_stereo :
    (∀ w : Wav, w.WellFormed → finishFrames w = .ok w.bytes) ∧ (1 : UInt32) ≤ 96000 ∧
      (96000 : UInt32).toNat * 2 * channelCount true < 2 ^ 32 ∧
      36 + 2 * [(0.5 : Float32), -0.5].length * repeatCount 96000 true < 2 ^ 32 ∧
      ∃ file samples, finishFrames (.ofWave [0.5, -0.5] 1 96000 true) = .ok file ∧
        IsSoundFile [0.5, -0.5] 1 96000 true file samples := by
  have canonical : ∀ w : Wav, w.WellFormed → finishFrames w = .ok w.bytes := by
    intro w h
    rw [finishFrames, if_pos h.frames]
  refine ⟨canonical, by decide, by decide, by decide, ?_⟩
  exact @exists_isSoundFile finishFrames canonical [0.5, -0.5] 1 96000 true (by decide) (by decide)
    (by decide)

end KanaVoice
