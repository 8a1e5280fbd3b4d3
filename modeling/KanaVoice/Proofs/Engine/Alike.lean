import KanaVoice.Proofs.Engine.LoadStates
import KanaVoice.Proofs.Engine.ProsodyPasses
import KanaVoice.Proofs.Library.Alike
set_option autoImplicit false

/-!
# Alike engines

Two engines are alike if both have no voices, or if they have the same voices, whichever of these
are loaded.  Alike engines answer a request alike, unless it asks for the load state itself, and
they are alike afterwards.  What happens to only one of them, between its starts, goes unnoticed.
-/

namespace KanaVoice

variable {S : Type}

/-! ## Voices -/

namespace Voices

/-- Two voices have the same symbols and alike catalogues. -/
structure Alike (b : Backend S) (conduct : Conduct) (strict : Bool) (history history' : History S)
    (v v' : Voices S) : Prop where
  symbols : v'.symbols = v.symbols
  catalogue : v.catalogue.Alike b conduct strict history history' v'.catalogue

namespace Alike

variable {b : Backend S} {conduct : Conduct} {strict : Bool} {v v' : Voices S} {speaker : Int64}
  {history history' later later' : History S}

theorem mono (h : v.Alike b conduct strict history history' v')
    (since : Since history history' later later') : v.Alike b conduct strict later later' v' :=
  ⟨h.symbols, h.catalogue.mono since⟩

section

variable (h : v.Alike b conduct strict history history' v')
  (states : v'.catalogue.isLoaded speaker = v.catalogue.isLoaded speaker)
  (since : Since history history' later later')

include h states since

theorem agree_predict (phrases : List AccentPhrase) :
    Agree (Since history history') (v.predict b phrases speaker) (v'.predict b phrases speaker)
      later later' := by
  unfold predict
  rw [h.symbols]
  refine .liftBind since fun encoding _ => ?_
  refine .bind (h.catalogue.coupled_sessions states since) ?_
  rintro sessions sessions' _ _ ⟨alike, rfl, rfl⟩
  exact agree_variance b since alike _ _ speaker

theorem agree_speak (query : AudioQuery) (upspeak : Bool) :
    Agree (Since history history') (v.speak b query speaker upspeak)
      (v'.speak b query speaker upspeak) later later' := by
  unfold speak
  rw [h.symbols]
  refine .liftBind since fun encoding _ => ?_
  refine .bind (h.catalogue.coupled_sessions states since) ?_
  rintro sessions sessions' _ _ ⟨alike, rfl, rfl⟩
  exact (agree_decodeForward b since alike _ _ _ speaker).bind fun wave _ _ since =>
    .lift _ since

end

end Alike

end Voices

/-! ## Engines -/

namespace Engine

/-- Two engines have alike voices, or both have none. -/
inductive Alike (b : Backend S) (conduct : Conduct) (strict : Bool) (e e' : Engine S) : Prop
  | stopped : e.voices = none → e'.voices = none → Alike b conduct strict e e'
  | started {v v' : Voices S} : e.voices = some v → e'.voices = some v' →
      v.Alike b conduct strict e.history e'.history v' → Alike b conduct strict e e'

/-- Two engines have these voices, which are alike. -/
structure Alike.With (b : Backend S) (conduct : Conduct) (strict : Bool) (v v' : Voices S)
    (e e' : Engine S) : Prop where
  left : e.voices = some v
  right : e'.voices = some v'
  voices : v.Alike b conduct strict e.history e'.history v'

variable {b : Backend S} {conduct : Conduct} {strict : Bool} {e e' : Engine S} {v v' : Voices S}
  {speaker : Int64}

theorem Alike.With.alike (h : With b conduct strict v v' e e') : Alike b conduct strict e e' :=
  .started h.left h.right h.voices

namespace Alike

theorem symm (h : Alike b conduct strict e e') : Alike b conduct strict e' e := by
  cases h with
  | stopped left right => exact .stopped right left
  | started left right voices =>
    exact .started right left ⟨voices.symbols.symm, voices.catalogue.symm⟩

theorem loosen (h : Alike b conduct strict e e') : Alike b conduct false e e' := by
  cases h with
  | stopped left right => exact .stopped left right
  | started left right voices =>
    exact .started left right ⟨voices.symbols, voices.catalogue.loosen⟩

theorem grow {later later' : History S} (h : Alike b conduct strict e e')
    (since : Since e.history e'.history later later') :
    Alike b conduct strict { e with history := later } { e' with history := later' } := by
  cases h with
  | stopped left right => exact .stopped left right
  | started left right voices => exact .started left right (voices.mono since)

theorem isStarted (h : Alike b conduct strict e e') : e'.isStarted = e.isStarted := by
  unfold Engine.isStarted
  cases h with
  | stopped left right => rw [left, right]
  | started left right voices => rw [left, right]; rfl

/-- In strictly alike engines the same speakers have their models loaded. -/
theorem isLoaded (h : Alike b conduct true e e') (speaker : Int64) :
    e'.isLoaded speaker = e.isLoaded speaker := by
  cases h with
  | stopped left right => rw [Engine.isLoaded, Engine.isLoaded, left, right]
  | started left right voices =>
    rw [isLoaded_of_started left, isLoaded_of_started right]
    exact voices.catalogue.isLoaded speaker

end Alike

/-! ## Operations -/

/-- What two runs of calls come to, it comes to on behalf of two engines. -/
theorem coupled_perform {α α' : Type} {calls : Calls S α} {calls' : Calls S α'}
    {kept : History S → History S → Prop} {related : α → α' → History S → History S → Prop}
    {kept' : Engine S → Engine S → Prop} {related' : α → α' → Engine S → Engine S → Prop}
    (h : Coupled kept related calls calls' e.history e'.history)
    (failed : ∀ later later', kept later later' →
      kept' { e with history := later } { e' with history := later' })
    (done : ∀ a a' later later', related a a' later later' →
      related' a a' { e with history := later } { e' with history := later' }) :
    Coupled kept' related' (perform calls) (perform calls') e e' := by
  unfold Coupled at h ⊢
  rw [outcome_perform, outcome_perform]
  generalize outcome calls e.history = first at h
  generalize outcome calls' e'.history = second at h
  cases h with
  | ok h => exact .ok (done _ _ _ _ h)
  | error h => exact .error (failed _ _ h)

/-- Calls that end alike on behalf of the engines leave them alike. -/
theorem agree_perform {α : Type} {calls calls' : Calls S α} (h : Alike b conduct strict e e')
    (agree : Agree (Since e.history e'.history) calls calls' e.history e'.history) :
    Agree (Alike b conduct strict) (perform calls) (perform calls') e e' := by
  refine coupled_perform agree (fun _ _ since => h.grow since) ?_
  rintro a _ later later' ⟨rfl, since⟩
  exact ⟨rfl, h.grow since⟩

theorem agree_analyzeText (h : Alike b conduct strict e e') (analyzer : TextAnalyzer)
    (text : String) :
    Agree (Alike b conduct strict) (perform (analyzeText analyzer text))
      (perform (analyzeText analyzer text)) e e' :=
  .of_eq rfl (h.grow ⟨List.prefix_append _ _, List.prefix_append _ _⟩)

theorem coupled_requireVoices (h : Alike b conduct strict e e') :
    Coupled (Alike b conduct strict) (Alike.With b conduct strict) requireVoices requireVoices
      e e' := by
  unfold Coupled
  rw [outcome_requireVoices, outcome_requireVoices]
  cases h with
  | stopped left right =>
    rw [left, right]
    exact .error (.stopped left right)
  | started left right voices =>
    rw [left, right]
    exact .ok ⟨left, right, voices⟩

section

variable (follows : b.Follows conduct)

include follows

/-- Loading for a speaker ends alike, and then the models are loaded in both engines. -/
theorem coupled_requireLoaded (h : Alike b conduct strict e e') (speaker : Int64) :
    Coupled (Alike b conduct strict)
      (fun v v' e e' => Alike.With b conduct strict v v' e e' ∧
        v'.catalogue.isLoaded speaker = v.catalogue.isLoaded speaker)
      (requireLoaded b speaker) (requireLoaded b speaker) e e' := by
  refine .bind (coupled_requireVoices h) ?_
  intro v v' e e' ready
  have load : Coupled (Alike b conduct strict)
      (fun c c' e₁ e₁' => c.Alike b conduct strict e₁.history e₁'.history c' ∧
        c.isLoaded speaker = true ∧ c'.isLoaded speaker = true)
      (perform (v.catalogue.load b speaker)) (perform (v'.catalogue.load b speaker)) e e' :=
    coupled_perform (ready.voices.catalogue.coupled_load follows speaker)
      (fun _ _ since => ready.alike.grow since) fun _ _ _ _ loaded => loaded.2
  refine load.bind ?_
  rintro c c' e₁ e₁' ⟨alike, loaded, loaded'⟩
  refine .modifyBind (.pure ⟨⟨rfl, rfl, ?_⟩, loaded'.trans loaded.symm⟩)
  exact ⟨ready.voices.symbols, alike⟩

variable (h : Alike b conduct strict e e')

include h

theorem agree_loadModel (speaker : Int64) :
    Agree (Alike b conduct strict) (loadModel b speaker) (loadModel b speaker) e e' := by
  refine Coupled.bind (coupled_requireLoaded follows h speaker) ?_
  rintro v v' e e' ⟨ready, -⟩
  exact .pure ⟨rfl, ready.alike⟩

theorem agree_pass
    (place : Prediction → List AccentPhrase → Except Fault (List AccentPhrase))
    (phrases : List AccentPhrase) (speaker : Int64) :
    Agree (Alike b conduct strict) (pass b speaker place phrases) (pass b speaker place phrases)
      e e' := by
  refine Coupled.bind (coupled_requireLoaded follows h speaker) ?_
  rintro v v' e e' ⟨ready, states⟩
  have predict := ready.voices.agree_predict states (.refl e.history e'.history) phrases
  exact (agree_perform ready.alike predict).bind fun p _ _ alike => .lift _ alike

theorem agree_replaceProsody (phrases : List AccentPhrase) (speaker : Int64) :
    Agree (Alike b conduct strict) (replaceProsody b phrases speaker)
      (replaceProsody b phrases speaker) e e' := by
  rw [replaceProsody_eq_pass]
  exact agree_pass follows h _ phrases speaker

theorem agree_replaceLengths (phrases : List AccentPhrase) (speaker : Int64) :
    Agree (Alike b conduct strict) (replaceLengths b phrases speaker)
      (replaceLengths b phrases speaker) e e' := by
  rw [replaceLengths_eq_pass]
  exact agree_pass follows h _ phrases speaker

theorem agree_replacePitches (phrases : List AccentPhrase) (speaker : Int64) :
    Agree (Alike b conduct strict) (replacePitches b phrases speaker)
      (replacePitches b phrases speaker) e e' := by
  rw [replacePitches_eq_pass]
  exact agree_pass follows h _ phrases speaker

theorem agree_accentPhrases (analyzer : TextAnalyzer) (text : String) (speaker : Int64) :
    Agree (Alike b conduct strict) (accentPhrases b analyzer text speaker)
      (accentPhrases b analyzer text speaker) e e' := by
  refine Coupled.bind (coupled_requireVoices h) ?_
  intro v v' e e' ready
  split
  · exact .pure ⟨rfl, ready.alike⟩
  · refine Agree.bind (agree_analyzeText ready.alike analyzer text) fun utterance _ _ alike => ?_
    simp only []
    split
    · exact .pure ⟨rfl, alike⟩
    · exact agree_replaceProsody follows alike _ speaker

theorem agree_synthesize (query : AudioQuery) (speaker : Int64) (upspeak : Bool) :
    Agree (Alike b conduct strict) (synthesize b query speaker upspeak)
      (synthesize b query speaker upspeak) e e' := by
  refine Coupled.bind (coupled_requireLoaded follows h speaker) ?_
  rintro v v' e e' ⟨ready, states⟩
  have speak := ready.voices.agree_speak states (.refl e.history e'.history) query upspeak
  exact agree_perform ready.alike speak

theorem agree_synthesizeWav (query : AudioQuery) (speaker : Int64) (upspeak : Bool) :
    Agree (Alike b conduct strict) (synthesizeWav b query speaker upspeak)
      (synthesizeWav b query speaker upspeak) e e' :=
  (agree_synthesize follows h query speaker upspeak).map _

theorem agree_kanaToWav (kana : String) (speaker : Int64) :
    Agree (Alike b conduct strict) (kanaToWav b kana speaker) (kanaToWav b kana speaker) e e' := by
  refine Coupled.bind (coupled_requireVoices h) ?_
  intro v v' e e' ready
  refine .liftBind ready.alike fun phrases _ => ?_
  refine (agree_replaceProsody follows ready.alike phrases speaker).bind fun _ _ _ alike => ?_
  exact agree_synthesizeWav follows alike _ speaker true

theorem agree_textToWav (analyzer : TextAnalyzer) (text : String) (speaker : Int64) :
    Agree (Alike b conduct strict) (textToWav b analyzer text speaker)
      (textToWav b analyzer text speaker) e e' :=
  (agree_accentPhrases follows h analyzer text speaker).bind fun _ _ _ alike =>
    agree_synthesizeWav follows alike _ speaker true

theorem agree_record (kana : String) (options : SpeechOptions) :
    Agree (Alike b conduct strict) (record b kana options) (record b kana options) e e' := by
  refine .liftBind h fun phrases _ => ?_
  refine (agree_replaceProsody follows h phrases options.speaker).bind fun _ _ _ alike => ?_
  exact (agree_synthesize follows alike _ _ _).map _

omit follows

theorem agree_speakersJson :
    Agree (Alike b conduct strict) speakersJson speakersJson e e' := by
  refine Coupled.bind (coupled_requireVoices h) ?_
  intro v v' e e' ready
  refine .pure ⟨?_, ready.alike⟩
  rw [Catalogue.speakersJson, Catalogue.speakersJson, ready.voices.catalogue.speakers]

/-- A forward call ends alike, if the models are loaded in both engines or in neither. -/
theorem agree_forward {α : Type} {run : Sessions S → Calls S α}
    (states : e'.isLoaded speaker = e.isLoaded speaker)
    (work : ∀ sessions sessions' : Sessions S,
      sessions.Interchangeable b e.history e'.history sessions' →
      Agree (Since e.history e'.history) (run sessions) (run sessions') e.history e'.history) :
    Agree (Alike b conduct strict)
      (do
        let v ← requireVoices
        let sessions ← liftM (v.catalogue.sessions speaker)
        perform (run sessions))
      (do
        let v ← requireVoices
        let sessions ← liftM (v.catalogue.sessions speaker)
        perform (run sessions)) e e' := by
  cases h with
  | stopped left right =>
    unfold Agree Coupled
    rw [outcome_bind, outcome_bind, outcome_requireVoices, outcome_requireVoices, left, right]
    exact .error (.stopped left right)
  | @started v v' left right voices =>
    rw [isLoaded_of_started left, isLoaded_of_started right] at states
    have both : Alike.With b conduct strict v v' e e' := ⟨left, right, voices⟩
    unfold Agree Coupled
    rw [outcome_bind, outcome_bind, outcome_requireVoices_of_started left,
      outcome_requireVoices_of_started right]
    refine Coupled.bind (voices.catalogue.coupled_sessions states both.alike) ?_
    rintro sessions sessions' _ _ ⟨alike, rfl, rfl⟩
    exact agree_perform both.alike (work sessions sessions' alike)

omit h

/-! ## Requests -/

/-- The speaker whose load state a request asks for, if it asks for one. -/
def Request.observes? : Request → Option Int64
  | .isLoaded speaker | .variance _ _ speaker | .decode _ _ _ speaker => some speaker
  | _ => none

include follows h

/-- A request ends alike in alike engines, if the load state that it asks for is the same. -/
theorem agree_request (request : Request)
    (states : ∀ speaker, request.observes? = some speaker →
      e'.isLoaded speaker = e.isLoaded speaker) :
    Agree (Alike b conduct strict) (request.op b) (request.op b) e e' := by
  have since := Since.refl e.history e'.history
  cases request with
  | load speaker => exact (agree_loadModel follows h speaker).map _
  | isLoaded speaker =>
    refine .of_eq ?_ h
    exact congrArg (fun flag => Except.ok (Reply.flag flag)) (states speaker rfl)
  | speakers => exact (agree_speakersJson h).map _
  | variance phonemes accents speaker =>
    refine (agree_forward h (states speaker rfl) fun sessions sessions' alike => ?_).map _
    exact agree_variance b since alike phonemes accents speaker
  | decode phonemes pitches durations speaker =>
    refine (agree_forward h (states speaker rfl) fun sessions sessions' alike => ?_).map _
    exact agree_decodeForward b since alike phonemes pitches durations speaker
  | accentPhrases analyzer text speaker =>
    exact (agree_accentPhrases follows h analyzer text speaker).map _
  | phraseProsody phrases speaker => exact (agree_replaceProsody follows h phrases speaker).map _
  | phraseLengths phrases speaker => exact (agree_replaceLengths follows h phrases speaker).map _
  | phrasePitches phrases speaker => exact (agree_replacePitches follows h phrases speaker).map _
  | speech query speaker upspeak => exact (agree_synthesize follows h query speaker upspeak).map _
  | sound query speaker upspeak =>
    exact (agree_synthesizeWav follows h query speaker upspeak).map _
  | kanaSound kana speaker => exact (agree_kanaToWav follows h kana speaker).map _
  | textSound analyzer text speaker =>
    exact (agree_textToWav follows h analyzer text speaker).map _
  | recording kana options => exact (agree_record follows h kana options).map _
  | recordingFile tree path kana options => exact (agree_record follows h kana options).map _

end

end Engine

end KanaVoice
