import KanaVoice.Proofs.Inference.Calls
import KanaVoice.Proofs.Library.Loading
set_option autoImplicit false

/-!
# Voices and their calls

Every operation begins by asking for the engine's voices, or for these after the models of its
speaker have been loaded.  Then the voices are asked for prosody or for speech, which makes calls on
the sessions of the speaker only.
-/

namespace KanaVoice

/-! ## Voices and loaded voices

Both answers to the first question are given by cases, and so is what starting an engine comes to. -/

section

variable {S : Type} (b : Backend S)

namespace Voices

/-- The speaker has sessions, and loading the library again does nothing. -/
structure Ready (v : Voices S) (speaker : Int64) (sessions : Sessions S) : Prop where
  sessions : v.catalogue.sessions speaker = .ok sessions
  reload : ∀ history, outcome (v.catalogue.load b speaker) history = (.ok v.catalogue, history)

end Voices

namespace Engine

variable {v v' : Voices S} {sessions : Sessions S} {speaker : Int64} {e e' : Engine S}

theorem outcome_modify (f : Engine S → Engine S) (e : Engine S) :
    outcome (modify f : Op S Unit) e = (.ok (), f e) := rfl

theorem outcome_requireVoices (e : Engine S) :
    outcome (requireVoices : Op S (Voices S)) e =
      match e.voices with
      | some v => (.ok v, e)
      | none => (.error .notInitialized, e) := by
  unfold requireVoices
  rw [outcome_bind]
  show outcome (match e.voices with | some v => pure v | none => throw .notInitialized) e = _
  cases e.voices <;> rfl

theorem outcome_requireVoices_of_started (started : e.voices = some v) :
    outcome (requireVoices : Op S (Voices S)) e = (.ok v, e) := by
  rw [outcome_requireVoices, started]

/-- The engine keeps the catalogue that a successful load makes, and its old one otherwise. -/
theorem outcome_requireLoaded_of_started (started : e.voices = some v) (speaker : Int64) :
    outcome (requireLoaded b speaker) e =
      match outcome (v.catalogue.load b speaker) e.history with
      | (.ok catalogue, history) =>
        (.ok { v with catalogue }, { voices := some { v with catalogue }, history })
      | (.error fault, history) => (.error fault, { voices := some v, history }) := by
  unfold requireLoaded
  rw [outcome_bind, outcome_requireVoices_of_started started]
  simp only []
  rw [outcome_bind, outcome_perform]
  cases load : outcome (v.catalogue.load b speaker) e.history with
  | mk answer history =>
    cases answer with
    | ok catalogue => rfl
    | error fault => rw [← started]

/-- Voices are refused for want of an engine that is started, of a library or of a usable model. -/
theorem fault_of_requireLoaded {fault : Fault}
    (h : outcome (requireLoaded b speaker) e = (.error fault, e')) :
    fault = .notInitialized ∨ fault = .unknownSpeaker speaker ∨
      ∃ path reason, fault = .modelFormat path reason := by
  cases started : e.voices with
  | none =>
    unfold requireLoaded at h
    rw [outcome_bind, outcome_requireVoices, started] at h
    cases h
    exact .inl rfl
  | some v =>
    rw [outcome_requireLoaded_of_started b started] at h
    cases load : outcome (v.catalogue.load b speaker) e.history with
    | mk answer history =>
      rw [load] at h
      cases answer with
      | ok catalogue => cases h
      | error cause =>
        cases h
        exact .inr ((v.catalogue.yields_load b speaker).fault load)

/-- The speaker's library is loaded, by the calls of a load or before. -/
theorem outcome_requireLoaded_of_ok (started : e.voices = some v)
    (h : outcome (requireLoaded b speaker) e = (.ok v', e')) :
    ∃ l loaded sessions events, v.catalogue.library? speaker = some l ∧
      LoadedBy v.catalogue.plan l loaded sessions events ∧
      v' = { v with catalogue := v.catalogue.replace loaded } ∧ v'.Ready b speaker sessions ∧
      e' = { voices := some v', history := e.history ++ events } := by
  rw [outcome_requireLoaded_of_started b started] at h
  cases load : outcome (v.catalogue.load b speaker) e.history with
  | mk answer history =>
    rw [load] at h
    cases answer with
    | error fault => cases h
    | ok catalogue =>
      cases h
      obtain ⟨l, loaded, sessions, events, found, isLoaded, rfl, rfl⟩ :=
        Catalogue.outcome_load_of_ok b load
      have kept := Catalogue.library?_replace found isLoaded.name isLoaded.speakers
      refine ⟨l, loaded, sessions, events, found, isLoaded, rfl, ⟨?_, ?_⟩, rfl⟩
      · exact Catalogue.sessions_eq_ok_iff.2 ⟨loaded, kept, isLoaded.state⟩
      · exact Catalogue.outcome_load_replace b kept isLoaded.state

theorem outcome_requireLoaded_of_ready (started : e.voices = some v)
    (ready : v.Ready b speaker sessions) : outcome (requireLoaded b speaker) e = (.ok v, e) := by
  rw [outcome_requireLoaded_of_started b started, ready.reload]
  cases e
  cases started
  rfl

/-- An engine that is started gets the symbols and the catalogue under the root, and it gets
nothing else. -/
theorem outcome_start (tree : FileTree) (root : Path) (options : CatalogueOptions)
    (e : Engine S) :
    outcome (start b tree root options) e =
      match SymbolTable.loadOrBuiltIn tree root with
      | .error fault => (.error fault, e.stop)
      | .ok symbols =>
        match outcome (Catalogue.openAt b tree root options) e.history with
        | (.ok catalogue, history) => (.ok (), { voices := some { catalogue, symbols }, history })
        | (.error fault, history) => (.error fault, { voices := none, history }) := by
  unfold start
  rw [outcome_bind, outcome_modify]
  simp only []
  rw [outcome_bind, outcome_liftM]
  cases SymbolTable.loadOrBuiltIn tree root with
  | error fault => rfl
  | ok symbols =>
    simp only []
    rw [outcome_bind, outcome_perform]
    have same : e.stop.history = e.history := rfl
    rw [same]
    cases outcome (Catalogue.openAt b tree root options) e.history with
    | mk answer history => cases answer <;> rfl

end Engine

end

/-! ## Calls of voices

Prosody asks only for variance runs, and each of them is for the tensors that the phrases and the
speaker make.  Speech asks only for runs of the embedder and the decoder.  Whatever is asked for is
asked of the sessions that the catalogue has for the speaker. -/

variable {S : Type} (b : Backend S) {kind : Event S → Prop}

namespace Voices

variable (v : Voices S) {phrases : List AccentPhrase} {speaker : Int64}

/-- What the variance model is given for phrases of a speaker. -/
def submission (v : Voices S) (phrases : List AccentPhrase) (speaker : Int64) :
    Except Fault (List NamedTensor) := do
  let encoding ← encode v.symbols phrases
  varianceInputs encoding.phonemeIds encoding.accentIds speaker

theorem submission_of_encode {encoding : Encoding} (h : encode v.symbols phrases = .ok encoding) :
    v.submission phrases speaker =
      varianceInputs encoding.phonemeIds encoding.accentIds speaker := by
  rw [submission, h, except_ok_bind]

section

variable (run : ∀ sessions inputs answer, v.catalogue.sessions speaker = .ok sessions →
  v.submission phrases speaker = .ok inputs →
  kind (.run .variance sessions.variance inputs answer))

include run

theorem moves_predict : Moves (Appends kind) (v.predict b phrases speaker) := by
  refine .liftBind fun encoding encoded => ?_
  refine .liftBind fun sessions found => ?_
  refine moves_variance b fun inputs answer tensors => ?_
  refine run sessions inputs answer found ?_
  rw [submission_of_encode v encoded]
  exact tensors

theorem moves_predictLengths : Moves (Appends kind) (v.predictLengths b phrases speaker) := by
  refine .bind (moves_predict b v run) ?_
  intro prediction
  refine .bind (.lift _) ?_
  intro timed
  exact .pure _

theorem moves_predictPitches (known : Option (List Float32)) :
    Moves (Appends kind) (v.predictPitches b phrases speaker known) := by
  cases known with
  | some pitches => exact .lift _
  | none =>
    refine .bind (moves_predict b v run) ?_
    intro prediction
    exact .lift _

theorem moves_predictProsody : Moves (Appends kind) (v.predictProsody b phrases speaker) := by
  refine .bind (moves_predictLengths b v run) ?_
  rintro ⟨timed, pitches⟩
  exact .lift _

end

theorem moves_speak
    (embedder : ∀ sessions inputs answer, v.catalogue.sessions speaker = .ok sessions →
      kind (.run .embedder sessions.embedder inputs answer))
    (decoder : ∀ sessions inputs answer, v.catalogue.sessions speaker = .ok sessions →
      kind (.run .decoder sessions.decoder inputs answer))
    (query : AudioQuery) (upspeak : Bool) :
    Moves (Appends kind) (v.speak b query speaker upspeak) := by
  unfold speak
  refine .liftBind fun encoding _ => ?_
  refine .liftBind fun sessions found => ?_
  refine .bind ?_ fun wave => .lift _
  exact moves_decodeForward b (fun inputs answer => embedder sessions inputs answer found)
    (fun inputs answer => decoder sessions inputs answer found) _ _ _ _

end Voices

end KanaVoice
