import KanaVoice.Proofs.Engine.Readiness
import KanaVoice.Proofs.Library.LoadStates
set_option autoImplicit false

/-!
# Requests to an engine

Whatever an engine is asked for between two starts is a request, and requests are served one after
another, whether they succeed or fail.  A request can do no more to an engine than to add to its
history and to load the models of the one speaker that it loads models for; `Advance` says so, and
it follows a run of requests by induction.
-/

namespace KanaVoice

variable {S : Type}

namespace Engine

/-! ## Requests and replies -/

/-- What an engine can be asked for. -/
inductive Request where
  | load (speaker : Int64)
  | isLoaded (speaker : Int64)
  | speakers
  | variance (phonemes accents : List Int) (speaker : Int64)
  | decode (phonemes : List Int) (pitches durations : List Float32) (speaker : Int64)
  | accentPhrases (analyzer : TextAnalyzer) (text : String) (speaker : Int64)
  | phraseProsody (phrases : List AccentPhrase) (speaker : Int64)
  | phraseLengths (phrases : List AccentPhrase) (speaker : Int64)
  | phrasePitches (phrases : List AccentPhrase) (speaker : Int64)
  | speech (query : AudioQuery) (speaker : Int64) (upspeak : Bool)
  | sound (query : AudioQuery) (speaker : Int64) (upspeak : Bool)
  | kanaSound (kana : String) (speaker : Int64)
  | textSound (analyzer : TextAnalyzer) (text : String) (speaker : Int64)
  | recording (kana : String) (options : SpeechOptions)
  | recordingFile (tree : FileTree) (path : Path) (kana : String) (options : SpeechOptions)

/-- What a request is answered with. -/
inductive Reply where
  | done
  | flag (value : Bool)
  | text (value : String)
  | prediction (value : Prediction)
  | samples (value : List Float32)
  | phrases (value : List AccentPhrase)
  | sound (value : Wav)
  | recording (value : Recording)
  | file (written : Except IoFault FileTree)

namespace Request

/-- The operation that serves a request. -/
def op (b : Backend S) : Request → Op S Reply
  | .load speaker => do
    loadModel b speaker
    pure .done
  | .isLoaded speaker => do pure (.flag ((← get).isLoaded speaker))
  | .speakers => do pure (.text (← speakersJson))
  | .variance phonemes accents speaker => do
    pure (.prediction (← varianceForward b phonemes accents speaker))
  | .decode phonemes pitches durations speaker => do
    pure (.samples (← decodeForward b phonemes pitches durations speaker))
  | .accentPhrases analyzer text speaker => do
    pure (.phrases (← Engine.accentPhrases b analyzer text speaker))
  | .phraseProsody phrases speaker => do pure (.phrases (← replaceProsody b phrases speaker))
  | .phraseLengths phrases speaker => do pure (.phrases (← replaceLengths b phrases speaker))
  | .phrasePitches phrases speaker => do pure (.phrases (← replacePitches b phrases speaker))
  | .speech query speaker upspeak => do
    pure (.samples (← synthesize b query speaker upspeak))
  | .sound query speaker upspeak => do pure (.sound (← synthesizeWav b query speaker upspeak))
  | .kanaSound kana speaker => do pure (.sound (← kanaToWav b kana speaker))
  | .textSound analyzer text speaker => do
    pure (.sound (← textToWav b analyzer text speaker))
  | .recording kana options => do pure (.recording (← record b kana options))
  | .recordingFile tree path kana options => do
    let recording ← record b kana options
    pure (.file (recording.write tree path))

/-- The speaker whose models a request loads, if it loads any. -/
def loadsFor? : Request → Option Int64
  | .load speaker | .accentPhrases _ _ speaker | .phraseProsody _ speaker
  | .phraseLengths _ speaker | .phrasePitches _ speaker | .speech _ speaker _ | .sound _ speaker _
  | .kanaSound _ speaker | .textSound _ _ speaker => some speaker
  | .recording _ options | .recordingFile _ _ _ options => some options.speaker
  | .isLoaded _ | .speakers | .variance .. | .decode .. => none

end Request

/-- Serving a request for a file is recording to a file: what cannot be written is a reply, what
cannot be spoken is a fault. -/
theorem outcome_recordingFile (b : Backend S) (tree : FileTree) (path : Path) (kana : String)
    (options : SpeechOptions) (e : Engine S) :
    outcome ((Request.recordingFile tree path kana options).op b) e =
      match recordToFile b tree path kana options e with
      | (.ok written, e') => (.ok (.file (.ok written)), e')
      | (.error (.file cause), e') => (.ok (.file (.error cause)), e')
      | (.error (.speech cause), e') => (.error cause, e') := by
  unfold Request.op recordToFile
  rw [outcome_bind]
  unfold outcome
  cases record b kana options e with
  | mk answer e' =>
    cases answer with
    | error cause => rfl
    | ok recording =>
      show (Except.ok (Reply.file (recording.write tree path)), e') = _
      simp only []
      cases recording.write tree path <;> rfl

/-- The engine after requests, whatever becomes of them. -/
def serve (b : Backend S) (requests : List Request) (e : Engine S) : Engine S :=
  requests.foldl (fun e request => (outcome (request.op b) e).2) e

/-! ## What requests may do -/

/-- What may become of an engine while the models of some speakers are asked for: its history grows,
it keeps its symbols, and its catalogue advances by what is added to the history. -/
structure Advance (asked : Int64 → Prop) (e e' : Engine S) : Prop where
  stopped : e.voices = none → e'.voices = none
  started : ∀ v, e.voices = some v → v.catalogue.Distinct →
    ∃ events v', e'.history = e.history ++ events ∧ e'.voices = some v' ∧
      v'.symbols = v.symbols ∧ v.catalogue.Advance asked events v'.catalogue

namespace Advance

variable {asked : Int64 → Prop} {e e' : Engine S}

instance : IsPreorder (Engine S) (Advance asked) where
  refl e := by
    refine ⟨id, ?_⟩
    intro v started _
    exact ⟨[], v, (List.append_nil _).symm, started, rfl, .refl_of_no_load nofun⟩
  trans := by
    intro e e' e'' before after
    refine ⟨after.stopped ∘ before.stopped, ?_⟩
    intro v started distinct
    obtain ⟨events, v', history, started', symbols, first⟩ := before.started v started distinct
    obtain ⟨more, v'', history', started'', symbols', second⟩ :=
      after.started v' started' (first.distinct distinct)
    refine ⟨events ++ more, v'', ?_, started'', symbols'.trans symbols, first.trans second⟩
    rw [history', history, List.append_assoc]

theorem mono {asked' : Int64 → Prop} (h : Advance asked e e')
    (weaker : ∀ speaker, asked speaker → asked' speaker) : Advance asked' e e' := by
  refine ⟨h.stopped, ?_⟩
  intro v started distinct
  obtain ⟨events, v', history, started', symbols, advance⟩ := h.started v started distinct
  exact ⟨events, v', history, started', symbols, advance.mono weaker⟩

end Advance

/-! ## What requests are made of -/

/-- A relation between engines allows what requests are made of: calls that load nothing, and loads
for the speakers that are asked for. -/
structure Allows (b : Backend S) (asked : Int64 → Prop) (R : Engine S → Engine S → Prop) :
    Prop where
  calls : ∀ {α : Type} {calls : Calls S α},
    Moves (Appends fun event => ∀ name, ¬ event.IsLoadOf name) calls → Moves R (perform calls)
  load : ∀ speaker, asked speaker → Moves R (requireLoaded b speaker)

section

variable {b : Backend S} {asked : Int64 → Prop} {R : Engine S → Engine S → Prop}
  [IsPreorder (Engine S) R] {speaker : Int64}

theorem moves_requireVoices : Moves R (requireVoices : Op S (Voices S)) := by
  intro e
  rw [outcome_requireVoices]
  cases e.voices <;> exact Std.Refl.refl e

namespace Allows

variable (h : Allows b asked R)

include h

theorem forward {α : Type} {run : Sessions S → Calls S α}
    (quiet : ∀ sessions,
      Moves (Appends fun event => ∀ name, ¬ event.IsLoadOf name) (run sessions)) :
    Moves R (do
      let v ← requireVoices
      let sessions ← liftM (v.catalogue.sessions speaker)
      perform (run sessions)) := by
  refine .bind moves_requireVoices fun v => ?_
  refine .bind (.lift _) fun sessions => ?_
  exact h.calls (quiet sessions)

variable (loads : asked speaker)

include loads

theorem replaceProsody (phrases : List AccentPhrase) :
    Moves R (Engine.replaceProsody b phrases speaker) := by
  refine .bind (h.load speaker loads) fun v => ?_
  exact h.calls (v.moves_predictProsody b fun _ _ _ _ _ _ => id)

theorem replaceLengths (phrases : List AccentPhrase) :
    Moves R (Engine.replaceLengths b phrases speaker) := by
  refine .bind (h.load speaker loads) fun v => ?_
  refine .bind (h.calls (v.moves_predictLengths b fun _ _ _ _ _ _ => id)) fun timed => ?_
  exact .pure _

theorem replacePitches (phrases : List AccentPhrase) :
    Moves R (Engine.replacePitches b phrases speaker) := by
  refine .bind (h.load speaker loads) fun v => ?_
  exact h.calls (v.moves_predictPitches b (fun _ _ _ _ _ _ => id) none)

theorem accentPhrases (analyzer : TextAnalyzer) (text : String) :
    Moves R (Engine.accentPhrases b analyzer text speaker) := by
  refine .bind moves_requireVoices fun _ => ?_
  split
  · exact .pure _
  · refine .bind (h.calls (moves_analyzeText fun _ _ => id)) fun utterance => ?_
    simp only []
    split
    · exact .pure _
    · exact h.replaceProsody loads _

theorem synthesize (query : AudioQuery) (upspeak : Bool) :
    Moves R (Engine.synthesize b query speaker upspeak) := by
  refine .bind (h.load speaker loads) fun v => ?_
  exact h.calls (v.moves_speak b (fun _ _ _ _ _ => id) (fun _ _ _ _ _ => id) query upspeak)

theorem synthesizeWav (query : AudioQuery) (upspeak : Bool) :
    Moves R (Engine.synthesizeWav b query speaker upspeak) :=
  .bind (h.synthesize loads query upspeak) fun _ => .pure _

theorem kanaToWav (kana : String) : Moves R (Engine.kanaToWav b kana speaker) := by
  refine .bind moves_requireVoices fun _ => ?_
  refine .bind (.lift _) fun phrases => ?_
  refine .bind (h.replaceProsody loads phrases) fun placed => ?_
  exact h.synthesizeWav loads _ true

theorem textToWav (analyzer : TextAnalyzer) (text : String) :
    Moves R (Engine.textToWav b analyzer text speaker) := by
  refine .bind (h.accentPhrases loads analyzer text) fun phrases => ?_
  exact h.synthesizeWav loads _ true

omit loads

theorem record {options : SpeechOptions} (loads : asked options.speaker) (kana : String) :
    Moves R (Engine.record b kana options) := by
  refine .bind (.lift _) fun phrases => ?_
  refine .bind (h.replaceProsody loads phrases) fun placed => ?_
  refine .bind (h.synthesize loads _ options.upspeak) fun samples => ?_
  exact .pure _

omit h

/-- What allows the parts of a request allows the request. -/
theorem request {request : Request}
    (h : Allows b (fun speaker => request.loadsFor? = some speaker) R) :
    Moves R (request.op b) := by
  cases request with
  | load speaker =>
    exact .bind (.bind (h.load speaker rfl) fun _ => .pure _) fun _ => .pure _
  | isLoaded speaker =>
    intro e
    exact Std.Refl.refl e
  | speakers => exact .bind (.bind moves_requireVoices fun v => .pure _) fun text => .pure _
  | variance phonemes accents speaker =>
    refine .bind (h.forward fun sessions => ?_) fun prediction => .pure _
    exact moves_variance b fun _ _ _ _ => id
  | decode phonemes pitches durations speaker =>
    refine .bind (h.forward fun sessions => ?_) fun wave => .pure _
    exact moves_decodeForward b (fun _ _ _ => id) (fun _ _ _ => id) phonemes pitches durations
      speaker
  | accentPhrases analyzer text speaker =>
    exact .bind (h.accentPhrases rfl analyzer text) fun _ => .pure _
  | phraseProsody phrases speaker => exact .bind (h.replaceProsody rfl phrases) fun _ => .pure _
  | phraseLengths phrases speaker => exact .bind (h.replaceLengths rfl phrases) fun _ => .pure _
  | phrasePitches phrases speaker => exact .bind (h.replacePitches rfl phrases) fun _ => .pure _
  | speech query speaker upspeak =>
    exact .bind (h.synthesize rfl query upspeak) fun _ => .pure _
  | sound query speaker upspeak =>
    exact .bind (h.synthesizeWav rfl query upspeak) fun _ => .pure _
  | kanaSound kana speaker => exact .bind (h.kanaToWav rfl kana) fun _ => .pure _
  | textSound analyzer text speaker =>
    exact .bind (h.textToWav rfl analyzer text) fun _ => .pure _
  | recording kana options => exact .bind (h.record rfl kana) fun _ => .pure _
  | recordingFile tree path kana options => exact .bind (h.record rfl kana) fun _ => .pure _

end Allows

end

/-! ## What requests do -/

section

variable (b : Backend S)

theorem allows_advance (asked : Int64 → Prop) : Allows b asked (Advance asked) where
  calls {_ calls} quiet e := by
    obtain ⟨events, grown, none⟩ := quiet e.history
    rw [outcome_perform]
    refine ⟨id, ?_⟩
    intro v started _
    exact ⟨events, v, grown, started, rfl, .refl_of_no_load none⟩
  load speaker loads e := by
    constructor
    case stopped =>
      intro stopped
      unfold requireLoaded
      rw [outcome_bind, outcome_requireVoices, stopped]
      exact stopped
    case started =>
      intro v started distinct
      rw [outcome_requireLoaded_of_started b started]
      obtain ⟨events, grown, advance⟩ := Catalogue.advance_of_load b distinct speaker e.history
      have weaker : ∀ other, other = speaker → asked other := by
        rintro _ rfl
        exact loads
      cases load : outcome (v.catalogue.load b speaker) e.history with
      | mk answer history =>
        rw [load] at grown advance
        cases answer with
        | ok catalogue =>
          exact ⟨events, { v with catalogue }, grown, rfl, rfl, advance.mono weaker⟩
        | error fault => exact ⟨events, v, grown, rfl, rfl, advance.mono weaker⟩

/-- One request. -/
theorem moves_request (request : Request) :
    Moves (Advance fun speaker => request.loadsFor? = some speaker) (request.op b) :=
  (allows_advance b _).request

/-- What each of the requests does to an engine the run of them does. -/
theorem moves_serve {R : Engine S → Engine S → Prop} [IsPreorder (Engine S) R]
    {requests : List Request} (each : ∀ request ∈ requests, Moves R (request.op b))
    (e : Engine S) : R e (serve b requests e) := by
  induction requests generalizing e with
  | nil => exact Std.Refl.refl e
  | cons request rest ih =>
    have later := ih (fun other mem => each other (List.mem_cons_of_mem _ mem))
      (outcome (request.op b) e).2
    exact IsTrans.trans _ _ _ (each request List.mem_cons_self e) later

/-- A run of requests. -/
theorem advance_serve (requests : List Request) (e : Engine S) :
    Advance (fun speaker => ∃ request ∈ requests, request.loadsFor? = some speaker) e
      (serve b requests e) := by
  refine moves_serve b (fun request mem e => ?_) e
  refine (moves_request b request e).mono ?_
  intro speaker loads
  exact ⟨request, mem, loads⟩

end

end Engine

end KanaVoice
