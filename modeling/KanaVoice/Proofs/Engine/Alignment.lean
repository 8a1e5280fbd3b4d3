import KanaVoice.Proofs.Engine.Readiness
import KanaVoice.Proofs.Symbol.Encoding
import KanaVoice.Proofs.Speech.Placement
set_option autoImplicit false

/-!
# No operation misaligns its lists

Lists that belong to one list of phrases have one entry for each phoneme position, so the checks
that stages and placements make on the lengths of their lists never fail on the engine's own
calls.  Placing lengths keeps the positions, hence the pitches that were predicted with them still
fit, and a rise lengthens the phonemes and the contour alike.
-/

namespace KanaVoice

variable {S : Type} (b : Backend S)

/-! ## Placements -/

theorem failsOnly_withLengths {phrases : List AccentPhrase} {values : List Float32}
    (aligned : values.length = phonemeTotal phrases) :
    FailsOnly (fun f => ¬ f.IsMisalignment) (withLengths phrases values) := by
  rw [withLengths_eq_ok_iff.2 ⟨aligned, rfl⟩]
  exact .ok _

theorem failsOnly_withPitches {phrases : List AccentPhrase} {values : List Float32}
    (aligned : values.length = phonemeTotal phrases) :
    FailsOnly (fun f => ¬ f.IsMisalignment) (withPitches phrases values) := by
  rw [withPitches_eq_ok_iff.2 ⟨aligned, rfl⟩]
  exact .ok _

/-! ## Encodings and sessions -/

theorem not_isMisalignment_of_unknownSymbol {fault : Fault}
    (h : ∃ kind symbol, fault = .unknownSymbol kind symbol) : ¬ fault.IsMisalignment := by
  obtain ⟨kind, symbol, rfl⟩ := h
  exact id

theorem yields_encode {symbols : SymbolTable} {phrases : List AccentPhrase}
    (bare : ∀ p ∈ phrases, p.HasBarePause) :
    Yields (liftM (encode symbols phrases) : Calls S Encoding)
      (fun c => c.moras = flattenMoras phrases ∧
        c.phonemeIds.length = phonemeTotal phrases ∧ c.accentIds.length = phonemeTotal phrases)
      fun f => ¬ f.IsMisalignment := by
  refine .lift (fun c encoded => ?_) ?_
  · exact ⟨(encode_eq_ok_iff.1 encoded).1, length_phonemeIds encoded,
      length_accentIds bare encoded⟩
  · exact (failsOnly_encode symbols phrases).mono fun _ => not_isMisalignment_of_unknownSymbol

theorem yields_sessions (c : Catalogue S) (speaker : Int64) :
    Yields (liftM (c.sessions speaker) : Calls S (Sessions S)) (fun _ => True)
      fun f => ¬ f.IsMisalignment := by
  refine .liftFault ((c.failsOnly_sessions speaker).mono fun fault kind => ?_)
  rcases kind with rfl | rfl <;> exact id

/-! ## Voices -/

namespace Voices

variable (v : Voices S) {phrases : List AccentPhrase} (speaker : Int64)

theorem yields_predict (bare : ∀ p ∈ phrases, p.HasBarePause) :
    Yields (v.predict b phrases speaker)
      (fun p => p.pitches.length = phonemeTotal phrases ∧
        p.durations.length = phonemeTotal phrases)
      fun f => ¬ f.IsMisalignment := by
  refine .bind (yields_encode bare) ?_
  rintro c ⟨_, phonemes, accents⟩
  refine .seq (yields_sessions v.catalogue speaker) ?_
  intro sessions
  have aligned : c.accentIds.length = c.phonemeIds.length := by rw [phonemes, accents]
  refine ((yields_variance b aligned).mono fun p lengths => ?_).monoFault fun _ => (·.aligned)
  rwa [phonemes] at lengths

theorem yields_predictLengths (bare : ∀ p ∈ phrases, p.HasBarePause) :
    Yields (v.predictLengths b phrases speaker) (fun r => r.2.length = phonemeTotal r.1)
      fun f => ¬ f.IsMisalignment := by
  refine .bind (v.yields_predict b speaker bare) ?_
  rintro p ⟨pitches, durations⟩
  have place : Yields (liftM (withLengths phrases p.durations) : Calls S (List AccentPhrase))
      (fun placed => phonemeTotal placed = phonemeTotal phrases) fun f => ¬ f.IsMisalignment :=
    .lift (fun _ => phonemeTotal_of_withLengths) (failsOnly_withLengths durations)
  exact place.bind fun placed same => .pure (by rw [pitches, same])

theorem yields_predictPitches (bare : ∀ p ∈ phrases, p.HasBarePause) :
    Yields (v.predictPitches b phrases speaker none) (fun _ => True)
      fun f => ¬ f.IsMisalignment := by
  refine .bind (v.yields_predict b speaker bare) ?_
  rintro p ⟨pitches, _⟩
  exact .liftFault (failsOnly_withPitches pitches)

theorem yields_predictProsody (bare : ∀ p ∈ phrases, p.HasBarePause) :
    Yields (v.predictProsody b phrases speaker) (fun _ => True)
      fun f => ¬ f.IsMisalignment := by
  refine .bind (v.yields_predictLengths b speaker bare) ?_
  intro r pitches
  exact .liftFault (failsOnly_withPitches pitches)

theorem yields_speak (query : AudioQuery) (upspeak : Bool)
    (bare : ∀ p ∈ query.phrases, p.HasBarePause) :
    Yields (v.speak b query speaker upspeak) (fun _ => True) fun f => ¬ f.IsMisalignment := by
  have bareSpoken : ∀ p ∈ if upspeak then withUpspeak query.phrases else query.phrases,
      p.HasBarePause := by
    cases upspeak
    · exact bare
    · exact hasBarePause_withUpspeak bare
  refine .bind (yields_encode bareSpoken) ?_
  rintro c ⟨moras, phonemes, _⟩
  refine .seq (yields_sessions v.catalogue speaker) ?_
  intro sessions
  refine .seq ((yields_decodeForward b ?_ ?_).monoFault fun _ => (·.aligned)) ?_
  · rw [phonemes, moras, length_pitches_contour]
  · rw [phonemes, moras, length_durations_contour]
  intro wave
  · refine .liftFault ((failsOnly_padSilence ..).mono fun fault kind => ?_)
    obtain ⟨what, seconds, rfl⟩ := kind
    exact id

end Voices

/-! ## Operations of the engine -/

namespace Engine

theorem yields_requireLoaded (speaker : Int64) :
    Yields (requireLoaded b speaker) (fun _ => True) fun f => ¬ f.IsMisalignment := by
  refine .ofFault fun run => ?_
  rcases fault_of_requireLoaded b run with rfl | rfl | ⟨path, reason, rfl⟩
  · exact id
  · exact id
  · exact id

variable {phrases : List AccentPhrase} (speaker : Int64)

theorem yields_replaceLengths (bare : ∀ p ∈ phrases, p.HasBarePause) :
    Yields (replaceLengths b phrases speaker) (fun _ => True) fun f => ¬ f.IsMisalignment :=
  .seq (yields_requireLoaded b speaker) fun v =>
    .bind (yields_perform (v.yields_predictLengths b speaker bare)) fun _ _ => .pure trivial

theorem yields_replacePitches (bare : ∀ p ∈ phrases, p.HasBarePause) :
    Yields (replacePitches b phrases speaker) (fun _ => True) fun f => ¬ f.IsMisalignment :=
  .seq (yields_requireLoaded b speaker) fun v =>
    yields_perform (v.yields_predictPitches b speaker bare)

theorem yields_replaceProsody (bare : ∀ p ∈ phrases, p.HasBarePause) :
    Yields (replaceProsody b phrases speaker) (fun _ => True) fun f => ¬ f.IsMisalignment :=
  .seq (yields_requireLoaded b speaker) fun v =>
    yields_perform (v.yields_predictProsody b speaker bare)

theorem yields_synthesize (query : AudioQuery) (upspeak : Bool)
    (bare : ∀ p ∈ query.phrases, p.HasBarePause) :
    Yields (synthesize b query speaker upspeak) (fun _ => True) fun f => ¬ f.IsMisalignment :=
  .seq (yields_requireLoaded b speaker) fun v =>
    yields_perform (v.yields_speak b speaker query upspeak bare)

/-- Whatever the engine does before, the operation does not fail over lists of different
lengths. -/
def NeverMisaligns {α : Type} (op : Op S α) : Prop :=
  ∀ {e e' : Engine S} {fault : Fault}, outcome op e = (.error fault, e') → ¬ fault.IsMisalignment

end Engine

/-! ## All streams of phrases -/

/-- Every traversal of the phrases has one entry for each phoneme position. -/
structure Aligned (phrases : List AccentPhrase) : Prop where
  phonemes : (phonemeSymbols (flattenMoras phrases)).length = phonemeTotal phrases
  accents : (accentSymbols phrases).length = phonemeTotal phrases
  moras : ((flattenMoras phrases).map Mora.phonemeCount).sum = phonemeTotal phrases
  pitches : ∀ scales : ContourScales,
    (contour (flattenMoras phrases) scales).pitches.length = phonemeTotal phrases
  durations : ∀ scales : ContourScales,
    (contour (flattenMoras phrases) scales).durations.length = phonemeTotal phrases

/-- Phrases whose pauses carry no consonant are aligned, and no operation that predicts their
prosody or speaks them misaligns its lists, with rises or without. -/
theorem aligned_and_neverMisaligns {phrases : List AccentPhrase}
    (bare : ∀ p ∈ phrases, p.HasBarePause) :
    Aligned phrases ∧
    ∀ {S : Type} (b : Backend S) (speaker : Int64),
      Engine.NeverMisaligns (Engine.replaceLengths b phrases speaker) ∧
      Engine.NeverMisaligns (Engine.replacePitches b phrases speaker) ∧
      Engine.NeverMisaligns (Engine.replaceProsody b phrases speaker) ∧
      ∀ (query : AudioQuery) (upspeak : Bool), query.phrases = phrases →
        Engine.NeverMisaligns (Engine.synthesize b query speaker upspeak) := by
  refine ⟨⟨?_, length_accentSymbols bare, sum_phonemeCount_flattenMoras phrases,
    length_pitches_contour phrases, length_durations_contour phrases⟩, ?_⟩
  · rw [length_phonemeSymbols, sum_phonemeCount_flattenMoras]
  · intro S b speaker
    refine ⟨(Engine.yields_replaceLengths b speaker bare).fault,
      (Engine.yields_replacePitches b speaker bare).fault,
      (Engine.yields_replaceProsody b speaker bare).fault, ?_⟩
    rintro query upspeak rfl
    exact (Engine.yields_synthesize b speaker query upspeak bare).fault

/-- A phrase before a pause, one without morae and a question. -/
def pausedQuestion : List AccentPhrase :=
  [{ moras := [.plain "カ" (some "k") "a", .plain "ン" none "N"], accent := 1, pause := some .pause },
   { moras := [], accent := 3 },
   { moras := [.plain "ス" (some "s") "U"], accent := 1, isQuestion := true }]

theorem aligned_pausedQuestion : phonemeTotal pausedQuestion = 6 ∧ Aligned pausedQuestion := by
  have bare : ∀ p ∈ pausedQuestion, p.HasBarePause := by
    simp [pausedQuestion, AccentPhrase.HasBarePause, Mora.pause, Mora.plain]
  exact ⟨rfl, (aligned_and_neverMisaligns bare).1⟩

end KanaVoice
