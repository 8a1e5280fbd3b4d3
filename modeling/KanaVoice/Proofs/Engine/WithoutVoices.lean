import KanaVoice.Proofs.Engine.KanaSpeech
import KanaVoice.Proofs.Engine.Request
set_option autoImplicit false

/-!
# Engines without voices

An engine without voices answers every request without a call to the outside and stays as it is.
All but two requests ask for the voices first, so they fail for want of these whatever they are
given.  The two recordings read their notation before that, so a text that is not kana notation
fails for that reason, with voices or without.
-/

namespace KanaVoice

variable {S : Type} (b : Backend S)

namespace Engine

/-- The engine was never started, was stopped, or failed to start the last time, and has been asked
for anything since. -/
inductive WithoutVoices (b : Backend S) : Engine S → Prop
  | fresh : WithoutVoices b {}
  | stopped (e : Engine S) : WithoutVoices b e.stop
  | notStarted {tree : FileTree} {root : Path} {options : CatalogueOptions} {e e' : Engine S}
      {fault : Fault} : outcome (start b tree root options) e = (.error fault, e') →
      WithoutVoices b e'
  | asked {e : Engine S} (request : Request) : WithoutVoices b e →
      WithoutVoices b (outcome (request.op b) e).2

/-- An engine that fails to start has no voices, whatever it had before. -/
theorem voices_of_not_started {tree : FileTree} {root : Path} {options : CatalogueOptions}
    {e e' : Engine S} {fault : Fault}
    (h : outcome (start b tree root options) e = (.error fault, e')) : e'.voices = none := by
  rw [outcome_start] at h
  split at h
  case h_1 =>
    cases h
    rfl
  case h_2 symbols _ =>
    cases opened : outcome (Catalogue.openAt b tree root options) e.history with
    | mk answer history =>
      rw [opened] at h
      cases answer with
      | ok catalogue => cases h
      | error cause =>
        cases h
        rfl

theorem WithoutVoices.voices {e : Engine S} (h : WithoutVoices b e) : e.voices = none := by
  induction h with
  | fresh => rfl
  | stopped e => rfl
  | notStarted failed => exact voices_of_not_started b failed
  | asked request _ ih => exact (moves_request b request _).stopped ih

/-! ## Refusals -/

/-- The operation fails for want of voices and leaves the engine as it is. -/
def Refused {α : Type} (x : Op S α) (e : Engine S) : Prop :=
  outcome x e = (.error .notInitialized, e)

namespace Refused

variable {α β : Type} {x : Op S α} {f : α → Op S β} {e : Engine S}

theorem requireVoices (h : e.voices = none) :
    Refused (Engine.requireVoices : Op S (Voices S)) e := by
  unfold Refused
  rw [outcome_requireVoices, h]

/-- What is refused at its first step is refused. -/
theorem bind (h : Refused x e) : Refused (x >>= f) e := by
  unfold Refused
  rw [outcome_bind, h]

/-- Asking for loaded voices asks for voices first. -/
theorem requireLoaded (h : e.voices = none) (speaker : Int64) :
    Refused (Engine.requireLoaded b speaker) e :=
  (requireVoices h).bind

theorem synthesizeWav (h : e.voices = none) (query : AudioQuery) (speaker : Int64)
    (upspeak : Bool) : Refused (Engine.synthesizeWav b query speaker upspeak) e :=
  (requireLoaded b h speaker).bind.bind

end Refused

/-- Recording reads the notation before it asks for voices. -/
theorem outcome_record_of_voices_eq_none {e : Engine S} (h : e.voices = none) (kana : String)
    (options : SpeechOptions) :
    outcome (record b kana options) e =
      match Kana.read kana with
      | .ok _ => (.error .notInitialized, e)
      | .error fault => (.error fault, e) := by
  unfold record
  rw [outcome_bind, outcome_liftM]
  cases Kana.read kana with
  | error fault => rfl
  | ok phrases =>
    have refused : Refused (replaceProsody b phrases options.speaker) e :=
      (Refused.requireLoaded b h options.speaker).bind
    exact refused.bind

/-! ## Answers -/

/-- What a request comes to without voices. -/
def Request.answerWithoutVoices : Request → Except Fault Reply
  | .isLoaded _ => .ok (.flag false)
  | .recording kana _ | .recordingFile _ _ kana _ =>
    match Kana.read kana with
    | .ok _ => .error .notInitialized
    | .error fault => .error fault
  | _ => .error .notInitialized

/-- Without voices no request makes a call or changes the engine, and each fails for want of voices,
except that no models are loaded, and that a recording of what is not kana notation fails by
that. -/
theorem outcome_of_withoutVoices {e : Engine S} (h : WithoutVoices b e) (request : Request) :
    outcome (request.op b) e = (request.answerWithoutVoices, e) := by
  have none := h.voices
  have loading (speaker : Int64) : Refused (requireLoaded b speaker) e :=
    .requireLoaded b none speaker
  have asking : Refused (requireVoices : Op S (Voices S)) e := .requireVoices none
  cases request with
  | load speaker => exact (loading speaker).bind.bind
  | isLoaded speaker =>
    show (Except.ok (Reply.flag (e.isLoaded speaker)), e) = _
    unfold isLoaded
    rw [none]
    rfl
  | speakers => exact asking.bind.bind
  | variance phonemes accents speaker => exact asking.bind.bind
  | decode phonemes pitches durations speaker => exact asking.bind.bind
  | accentPhrases analyzer text speaker => exact asking.bind.bind
  | phraseProsody phrases speaker => exact (loading speaker).bind.bind
  | phraseLengths phrases speaker => exact (loading speaker).bind.bind
  | phrasePitches phrases speaker => exact (loading speaker).bind.bind
  | speech query speaker upspeak => exact (loading speaker).bind.bind
  | sound query speaker upspeak => exact (Refused.synthesizeWav b none query speaker upspeak).bind
  | kanaSound kana speaker => exact asking.bind.bind
  | textSound analyzer text speaker =>
    have phrases : Refused (accentPhrases b analyzer text speaker) e := asking.bind
    exact phrases.bind.bind
  | recording kana options =>
    simp only [Request.op, Request.answerWithoutVoices]
    rw [outcome_bind, outcome_record_of_voices_eq_none b none]
    cases Kana.read kana <;> rfl
  | recordingFile tree path kana options =>
    simp only [Request.op, Request.answerWithoutVoices]
    rw [outcome_bind, outcome_record_of_voices_eq_none b none]
    cases Kana.read kana <;> rfl

theorem outcome_of_withoutVoices_stopped :
    WithoutVoices questionBackend questionEngine.stop ∧
      outcome (Request.op questionBackend (.phraseProsody [] 7)) questionEngine.stop =
        (.error .notInitialized, questionEngine.stop) := by
  have stopped := WithoutVoices.stopped (b := questionBackend) questionEngine
  exact ⟨stopped, outcome_of_withoutVoices questionBackend stopped (.phraseProsody [] 7)⟩

/-- A recording of what is not kana notation does not miss the voices. -/
theorem outcome_record_malformed :
    WithoutVoices questionBackend {} ∧
      (outcome (record questionBackend "x" {}) {}).1 = .error (.kana "x" (.unknownMora "x")) := by
  refine ⟨.fresh, ?_⟩
  rw [outcome_record_of_voices_eq_none questionBackend rfl]
  decide +kernel

end Engine

end KanaVoice
