import KanaVoice.Proofs.Engine.Readiness
import KanaVoice.Proofs.Inference.Runs
import KanaVoice.Proofs.Kana.RoundTrip
import KanaVoice.Proofs.Speech.Spoken
set_option autoImplicit false

/-!
# From notation to sound

Speaking notation asks the outside for at most a load of the speaker's library, one variance run,
one embedder run and one decoder run.  What the embedder is given is the slots of the phrases under
the prediction, and what the decoder is given is the embedder's rows over the frames of the slots.
-/

namespace KanaVoice

variable {S : Type} (b : Backend S)

/-! ## Phrases that were read -/

theorem bare_of_canonical {phrases : List AccentPhrase} (h : Kana.Canonical phrases) :
    ∀ p ∈ phrases, p.HasBarePause := by
  intro p mem m pause
  rw [Option.mem_def] at pause
  rcases (h.each p mem).pause with none | some
  · rw [none] at pause
    cases pause
  · rw [some] at pause
    cases pause
    rfl

theorem phonemeTotal_ne_zero {phrases : List AccentPhrase} (h : Kana.Canonical phrases)
    (nonempty : phrases ≠ []) : phonemeTotal phrases ≠ 0 := by
  obtain ⟨p, rest, rfl⟩ := List.exists_cons_of_ne_nil nonempty
  obtain ⟨m, moras, same⟩ := List.exists_cons_of_ne_nil (h.each p (by simp)).nonempty
  have positive := m.phonemeCount_pos
  rw [phonemeTotal_eq_sum, List.map_cons, List.sum_cons, AccentPhrase.phonemeCount_eq_sum, same,
    List.map_cons, List.sum_cons]
  omega

/-! ## Voices -/

namespace Voices

variable {v : Voices S} {sessions : Sessions S} {speaker : Int64} {history history' : History S}

/-- What a ready speaker does with an encoding it does on its sessions. -/
theorem Ready.outcome_of_ok {α : Type} {a : α} {phrases : List AccentPhrase}
    {work : Encoding → Sessions S → Calls S α} (ready : v.Ready b speaker sessions)
    (h : outcome (do
      let c ← liftM (encode v.symbols phrases)
      let found ← liftM (v.catalogue.sessions speaker)
      work c found) history = (.ok a, history')) :
    ∃ c, encode v.symbols phrases = .ok c ∧
      outcome (work c sessions) history = (.ok a, history') := by
  obtain ⟨c, _, first, more⟩ := outcome_bind_eq_ok_iff.1 h
  obtain ⟨encoded, rfl⟩ := outcome_liftM_eq_ok_iff.1 first
  obtain ⟨found, _, second, run⟩ := outcome_bind_eq_ok_iff.1 more
  obtain ⟨isSessions, rfl⟩ := outcome_liftM_eq_ok_iff.1 second
  rw [ready.sessions, Except.ok.injEq] at isSessions
  subst isSessions
  exact ⟨c, encoded, run⟩

/-- Prosody comes from one variance run for the phrases. -/
theorem outcome_predictProsody_of_ok {phrases placed : List AccentPhrase}
    (ready : v.Ready b speaker sessions) (nonempty : phonemeTotal phrases ≠ 0)
    (h : outcome (v.predictProsody b phrases speaker) history = (.ok placed, history')) :
    ∃ c p timed event, encode v.symbols phrases = .ok c ∧
      IsVarianceRun sessions.variance c.phonemeIds c.accentIds speaker p event ∧
      withLengths phrases p.durations = .ok timed ∧ withPitches timed p.pitches = .ok placed ∧
      history' = history ++ [event] := by
  unfold predictProsody predictLengths predict at h
  obtain ⟨⟨timed, pitches⟩, _, first, last⟩ := outcome_bind_eq_ok_iff.1 h
  obtain ⟨p, _, predicted, more⟩ := outcome_bind_eq_ok_iff.1 first
  obtain ⟨c, encoded, run⟩ := ready.outcome_of_ok b predicted
  have phonemes := phonemeIds_ne_nil encoded nonempty
  obtain ⟨event, isRun, rfl⟩ := isVarianceRun_of_ok b phonemes run
  obtain ⟨timed', _, placed', pair⟩ := outcome_bind_eq_ok_iff.1 more
  obtain ⟨isTimed, rfl⟩ := outcome_liftM_eq_ok_iff.1 placed'
  rw [outcome_pure, Prod.mk.injEq, Except.ok.injEq, Prod.mk.injEq] at pair
  obtain ⟨⟨rfl, rfl⟩, rfl⟩ := pair
  obtain ⟨isPlaced, rfl⟩ := outcome_liftM_eq_ok_iff.1 last
  exact ⟨c, p, timed', event, encoded, isRun, isTimed, isPlaced, rfl⟩

/-- Speech with rises comes from one embedder run and at most one decoder run for the phrases with
their rises. -/
theorem outcome_speak_of_ok {query : AudioQuery} {samples : List Float32}
    (ready : v.Ready b speaker sessions) (nonempty : phonemeTotal (withUpspeak query.phrases) ≠ 0)
    (h : outcome (v.speak b query speaker true) history = (.ok samples, history')) :
    ∃ c features frames wave embedder decoding,
      encode v.symbols (withUpspeak query.phrases) = .ok c ∧
      IsEmbedderRun sessions.embedder c.phonemeIds (contour c.moras query.scales).pitches speaker
        features embedder ∧
      features.regulate (contour c.moras query.scales).durations = .ok frames ∧
      IsDecoding sessions.decoder frames wave decoding ∧
      padSilence wave query.preSilence query.postSilence = .ok samples ∧
      history' = history ++ embedder :: decoding := by
  simp only [speak, if_true] at h
  obtain ⟨c, encoded, more⟩ := ready.outcome_of_ok b h
  have phonemes := phonemeIds_ne_nil encoded nonempty
  obtain ⟨wave, _, run, last⟩ := outcome_bind_eq_ok_iff.1 more
  obtain ⟨features, frames, embedder, decoding, isEmbedder, regulated, isDecoding, rfl⟩ :=
    outcome_decodeForward_of_ok b phonemes run
  obtain ⟨padded, rfl⟩ := outcome_liftM_eq_ok_iff.1 last
  exact ⟨c, features, frames, wave, embedder, decoding, encoded, isEmbedder, regulated, isDecoding,
    padded, rfl⟩

end Voices

/-! ## The engine's voices -/

namespace Engine

variable {v v' : Voices S} {sessions : Sessions S} {speaker : Int64} {e e' : Engine S}

/-- Phrases get their prosody from one variance run behind a load, which leaves the speaker
ready. -/
theorem outcome_replaceProsody_of_ok {phrases placed : List AccentPhrase}
    (started : e.voices = some v) (nonempty : phonemeTotal phrases ≠ 0)
    (h : outcome (replaceProsody b phrases speaker) e = (.ok placed, e')) :
    ∃ v' l loaded sessions loading c p timed variance, v.catalogue.library? speaker = some l ∧
      LoadedBy v.catalogue.plan l loaded sessions loading ∧
      v'.symbols = v.symbols ∧ v'.Ready b speaker sessions ∧
      encode v.symbols phrases = .ok c ∧
      IsVarianceRun sessions.variance c.phonemeIds c.accentIds speaker p variance ∧
      withLengths phrases p.durations = .ok timed ∧ withPitches timed p.pitches = .ok placed ∧
      e' = { voices := some v', history := e.history ++ loading ++ [variance] } := by
  unfold replaceProsody at h
  obtain ⟨v', _, load, predict⟩ := outcome_bind_eq_ok_iff.1 h
  obtain ⟨l, loaded, sessions, loading, found, isLoaded, rfl, ready, rfl⟩ :=
    outcome_requireLoaded_of_ok b started load
  obtain ⟨_, predicted, rfl⟩ := outcome_perform_eq_ok_iff.1 predict
  obtain ⟨c, p, timed, variance, encoded, isVariance, lengths, tones, rfl⟩ :=
    Voices.outcome_predictProsody_of_ok b ready nonempty predicted
  exact ⟨{ v with catalogue := v.catalogue.replace loaded }, l, loaded, sessions, loading, c, p,
    timed, variance, found, isLoaded, rfl, ready, encoded, isVariance, lengths, tones, rfl⟩

/-- A ready speaker is not loaded again: the sound comes from one embedder run and the decoding. -/
theorem outcome_synthesizeWav_of_ready {query : AudioQuery} {sound : Wav}
    (started : e.voices = some v) (ready : v.Ready b speaker sessions)
    (nonempty : phonemeTotal (withUpspeak query.phrases) ≠ 0)
    (h : outcome (synthesizeWav b query speaker true) e = (.ok sound, e')) :
    ∃ c features frames wave samples embedder decoding,
      encode v.symbols (withUpspeak query.phrases) = .ok c ∧
      IsEmbedderRun sessions.embedder c.phonemeIds (contour c.moras query.scales).pitches speaker
        features embedder ∧
      features.regulate (contour c.moras query.scales).durations = .ok frames ∧
      IsDecoding sessions.decoder frames wave decoding ∧
      padSilence wave query.preSilence query.postSilence = .ok samples ∧
      sound = .ofWave samples query.volumeScale query.rate query.stereo ∧
      e'.history = e.history ++ embedder :: decoding := by
  unfold synthesizeWav synthesize at h
  obtain ⟨samples, _, speech, last⟩ := outcome_bind_eq_ok_iff.1 h
  obtain ⟨_, _, reload, perform⟩ := outcome_bind_eq_ok_iff.1 speech
  rw [outcome_requireLoaded_of_ready b started ready, Prod.mk.injEq, Except.ok.injEq] at reload
  obtain ⟨rfl, rfl⟩ := reload
  obtain ⟨_, spoke, rfl⟩ := outcome_perform_eq_ok_iff.1 perform
  obtain ⟨c, features, frames, wave, embedder, decoding, encoded, isEmbedder, regulated,
    isDecoding, padded, rfl⟩ := Voices.outcome_speak_of_ok b ready nonempty spoke
  rw [outcome_pure, Prod.mk.injEq, Except.ok.injEq] at last
  obtain ⟨rfl, rfl⟩ := last
  exact ⟨c, features, frames, wave, samples, embedder, decoding, encoded, isEmbedder, regulated,
    isDecoding, padded, rfl, rfl⟩

end Engine

/-! ## Passages -/

/-- What happened between a notation and its sound: the calls, and the values that went from one to
the next. -/
structure Passage (S : Type) where
  phrases : List AccentPhrase
  encoding : Encoding
  sessions : Sessions S
  prediction : Prediction
  features : Matrix
  frames : Matrix
  wave : List Float32
  loading : List (Event S)
  variance : Event S
  embedder : Event S
  decoding : List (Event S)

namespace Passage

/-- The slots of what is spoken. -/
def spokenSlots (d : Passage S) : List Slot := slots d.prediction.pitches d.phrases

/-- The passage leads from the text by the calls to the sound. -/
structure Explains (d : Passage S) (v : Voices S) (text : String) (speaker : Int64)
    (calls : List (Event S)) (sound : Wav) : Prop where
  read : Kana.read text = .ok d.phrases
  encoded : encode v.symbols d.phrases = .ok d.encoding
  loaded : ∃ l l', v.catalogue.library? speaker = some l ∧
    LoadedBy v.catalogue.plan l l' d.sessions d.loading
  /-- The calls are those of a load, then one variance run, one embedder run and the decoding. -/
  calls : calls = d.loading ++ d.variance :: d.embedder :: d.decoding
  variance : IsVarianceRun d.sessions.variance d.encoding.phonemeIds d.encoding.accentIds speaker
    d.prediction d.variance
  /-- Between the phoneme positions, which keep their order, there are only rises. -/
  positions : d.spokenSlots.filterMap Slot.position? = List.range d.encoding.phonemeIds.length
  within : ∀ s ∈ d.spokenSlots, s.Within d.encoding.phonemeIds.length
  /-- The embedder is given every slot's phoneme and pitch. -/
  embedder : IsEmbedderRun d.sessions.embedder
    (d.spokenSlots.map fun s => d.encoding.phonemeIds.getD s.source 0)
    (d.spokenSlots.map (Slot.pitch d.prediction.pitches)) speaker d.features d.embedder
  columns : d.frames.columns = d.features.columns
  /-- The decoder is given every slot's row for each of the slot's frames. -/
  rows : d.frames.rows = Matrix.repeatRows d.features.rows
    (d.spokenSlots.map fun s => frameCount (s.length d.prediction.durations))
  decoding : IsDecoding d.sessions.decoder d.frames d.wave d.decoding
  sound : ∃ samples, padSilence d.wave 0.1 0.1 = .ok samples ∧
    sound = .ofWave samples 1 48000 false

end Passage

/-- Whatever the outside does, a notation that becomes sound does so by a passage. -/
theorem passage_of_kanaToWav {v : Voices S} {text : String} {speaker : Int64} {sound : Wav}
    {e e' : Engine S} (started : e.voices = some v) (nonempty : text ≠ "")
    (h : outcome (Engine.kanaToWav b text speaker) e = (.ok sound, e')) :
    ∃ (d : Passage S) (calls : List (Event S)), e'.history = e.history ++ calls ∧
      d.Explains v text speaker calls sound := by
  unfold Engine.kanaToWav at h
  obtain ⟨_, _, first, more⟩ := outcome_bind_eq_ok_iff.1 h
  rw [Engine.outcome_requireVoices_of_started started, Prod.mk.injEq] at first
  obtain ⟨-, rfl⟩ := first
  obtain ⟨phrases, _, second, more'⟩ := outcome_bind_eq_ok_iff.1 more
  obtain ⟨read, rfl⟩ := outcome_liftM_eq_ok_iff.1 second
  obtain ⟨placed, _, prosody, speech⟩ := outcome_bind_eq_ok_iff.1 more'
  -- What was read is canonical, so every pause is bare and there are phonemes.
  obtain ⟨written, canonical⟩ := Kana.written_of_read read
  have bare := bare_of_canonical canonical
  have phonemes : phonemeTotal phrases ≠ 0 := by
    refine phonemeTotal_ne_zero canonical ?_
    rintro rfl
    exact nonempty written.symm
  obtain ⟨v', l, loaded, sessions, loading, c, p, timed, variance, found, isLoaded, symbols, ready,
    encoded, isVariance, lengths, tones, rfl⟩ :=
    Engine.outcome_replaceProsody_of_ok b started phonemes prosody
  have voiced : phonemeTotal (withUpspeak (AudioQuery.ofPhrases placed).phrases) ≠ 0 :=
    phonemeTotal_withUpspeak_ne_zero bare lengths tones phonemes
  obtain ⟨c', features, frames, wave, samples, embedder, decoding, encoded', isEmbedder, regulated,
    isDecoding, padded, rfl, history⟩ :=
    Engine.outcome_synthesizeWav_of_ready b rfl ready voiced speech
  -- What the embedder and the decoder are given is that of the slots.
  rw [symbols] at encoded'
  obtain ⟨ids, usual⟩ := encoding_withUpspeak bare lengths tones encoded encoded'
  have usual' : contour c'.moras (AudioQuery.ofPhrases placed).scales = _ := usual
  rw [ids, usual'] at isEmbedder
  rw [usual'] at regulated
  obtain ⟨columns, rows⟩ := Matrix.rows_of_regulate regulated
  rw [List.map_map] at rows
  have size := length_phonemeIds encoded
  refine ⟨{ phrases, encoding := c, sessions, prediction := p, features, frames, wave, loading,
            variance, embedder, decoding }, loading ++ variance :: embedder :: decoding, ?_, ?_⟩
  · rw [history, List.append_assoc, List.append_assoc, List.singleton_append]
  · exact {
      read
      encoded
      loaded := ⟨l, loaded, found, isLoaded⟩
      calls := rfl
      variance := isVariance
      positions := by
        rw [size]
        exact filterMap_position_slots bare p.pitches
      within := by
        rw [size]
        exact within_slots p.pitches phrases
      embedder := isEmbedder
      columns
      rows
      decoding := isDecoding
      sound := ⟨samples, padded, rfl⟩ }

/-- A backend that answers always the same, as for a question of two phonemes. -/
def questionBackend : Backend Stage where
  devices := {}
  load _ stage _ _ := .ok stage
  run _ session _ := .ok <|
    match session with
    | .variance =>
      [⟨"pitches", [1, 2], .float32 [0, 6], by decide⟩,
       ⟨"durations", [1, 2], .float32 [0.05, 0.1], by decide⟩]
    | .embedder => [⟨"feature_embedded", [1, 3, 1], .float32 [1, 2, 3], by decide⟩]
    | .decoder => [⟨"wave", [1], .float32 [0.5], by decide⟩]

/-- Voices of one library that is not loaded yet. -/
def questionVoices : Voices Stage where
  catalogue := {
    libraries := [{
      name := "first"
      folder := ⟨"first"⟩
      speakers := [⟨"speaker", [⟨"style", 7⟩], "", ""⟩]
      state := .unloaded ⟨.empty, .empty, .empty⟩ }]
    plan := ⟨.cpu, 0⟩ }
  symbols := .builtIn

/-- An engine that has called nothing yet. -/
def questionEngine : Engine Stage := { voices := some questionVoices }

/-- The prediction in the answer of a variance run. -/
def Event.prediction? : Event S → Option Prediction
  | .run .variance _ _ (.ok outputs) => do
    let pitches ← lastFloats? "pitches" outputs
    let durations ← lastFloats? "durations" outputs
    pure { pitches, durations }
  | _ => none

theorem prediction?_of_isVarianceRun {session : S} {phonemes accents : List Int}
    {speaker : Int64} {p : Prediction} {event : Event S}
    (h : IsVarianceRun session phonemes accents speaker p event) :
    event.prediction? = some p := by
  obtain ⟨inputs, outputs, rfl, -, pitches, -, durations, -⟩ := h
  simp only [Event.prediction?, pitches, durations, Option.bind_eq_bind, Option.bind_some]
  rfl

theorem outcome_kanaToWav_question : ∃ sound e',
    outcome (Engine.kanaToWav questionBackend "カ'？" 7) questionEngine = (.ok sound, e') ∧
      e'.history.length = 6 ∧
      e'.history.filterMap Event.prediction? = [⟨[0, 6], [0.05, 0.1]⟩] :=
  exists_answer (by decide +kernel)

theorem read_question : (Kana.read "カ'？").toOption.map (slots [0, 6]) =
    some [.phoneme 0 1 true, .phoneme 1 1 true, .rise 1] := by
  decide +kernel

/-- The vowel is predicted at 6, so its consonant is spoken there too, and the rise at 6.3. -/
theorem passage_of_kanaToWav_question :
    questionEngine.voices = some questionVoices ∧ "カ'？" ≠ "" ∧ ∃ sound e',
      outcome (Engine.kanaToWav questionBackend "カ'？" 7) questionEngine = (.ok sound, e') ∧
      e'.history.length = 6 ∧
      ∃ (d : Passage Stage) (calls : List (Event Stage)),
        e'.history = questionEngine.history ++ calls ∧
        d.Explains questionVoices "カ'？" 7 calls sound ∧
        d.spokenSlots = [.phoneme 0 1 true, .phoneme 1 1 true, .rise 1] ∧
        d.spokenSlots.map (Slot.pitch d.prediction.pitches) = [6, 6, 6.3] ∧
        d.spokenSlots.map (Slot.length d.prediction.durations) = [0.05, 0.1, 0.15] := by
  obtain ⟨sound, e', run, six, predicted⟩ := outcome_kanaToWav_question
  have nonempty : "カ'？" ≠ "" := by decide
  obtain ⟨d, calls, history, explains⟩ := passage_of_kanaToWav questionBackend rfl nonempty run
  have prediction : d.prediction = ⟨[0, 6], [0.05, 0.1]⟩ := by
    have called : d.variance ∈ e'.history := by
      rw [history, explains.calls]
      simp
    have found : d.prediction ∈ e'.history.filterMap Event.prediction? :=
      List.mem_filterMap.2 ⟨d.variance, called, prediction?_of_isVarianceRun explains.variance⟩
    rwa [predicted, List.mem_singleton] at found
  have spoken : d.spokenSlots = [.phoneme 0 1 true, .phoneme 1 1 true, .rise 1] := by
    have slots := read_question
    rw [explains.read] at slots
    rw [Passage.spokenSlots, prediction]
    exact Option.some.inj slots
  refine ⟨rfl, nonempty, sound, e', run, six, d, calls, history, explains, spoken, ?_, ?_⟩
  · rw [spoken, prediction]
    decide +kernel
  · rw [spoken, prediction]
    decide +kernel

end KanaVoice
