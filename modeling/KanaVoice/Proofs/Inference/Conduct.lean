import KanaVoice.Proofs.Coupling
import KanaVoice.Proofs.Inference.Stages
set_option autoImplicit false

/-!
# Backends of a fixed conduct

A backend may answer by everything that has happened.  One of a fixed conduct takes or refuses a
model by the model alone, and what it has loaded answers by that model and by the inputs, whenever
it is run.  How it names its sessions is left open, so two sessions of one model may be different
ones.  A stage does the same with either of them.
-/

namespace KanaVoice

variable {S : Type}

/-! ## Conduct -/

/-- How models behave, apart from what has happened before. -/
structure Conduct where
  /-- Whether a model is taken. -/
  takes : Stage → ByteArray → SessionOptions → Except String Unit
  /-- What a model that was taken answers. -/
  answers : Stage → ByteArray → SessionOptions → List NamedTensor →
    Except String (List NamedTensor)

namespace Conduct

/-- Every model is taken. -/
def TakesAll (conduct : Conduct) : Prop :=
  ∀ stage model options, conduct.takes stage model options = .ok ()

end Conduct

namespace Backend

/-- From this history on the session answers as the model that it was loaded from. -/
def Plays (b : Backend S) (conduct : Conduct) (history : History S) (session : S) (stage : Stage)
    (model : ByteArray) (options : SessionOptions) : Prop :=
  ∀ later, history <+: later → ∀ inputs,
    b.run later session inputs = conduct.answers stage model options inputs

/-- The backend takes models and answers for them as the conduct says. -/
structure Follows (b : Backend S) (conduct : Conduct) : Prop where
  takes : ∀ history stage model options,
    (b.load history stage model options).map (fun _ => ()) = conduct.takes stage model options
  plays : ∀ history library stage model options session,
    b.load history stage model options = .ok session →
      b.Plays conduct (history ++ [.load library stage model options (.ok session)]) session stage
        model options

theorem Plays.mono {b : Backend S} {conduct : Conduct} {history later : History S} {session : S}
    {stage : Stage} {model : ByteArray} {options : SessionOptions}
    (h : b.Plays conduct history session stage model options) (grown : history <+: later) :
    b.Plays conduct later session stage model options :=
  fun last more => h last (grown.trans more)

end Backend

/-! ## Sessions of one model -/

/-- Two sessions answer alike, each from its own history on. -/
def Backend.Interchangeable (b : Backend S) (history history' : History S) (session session' : S) :
    Prop :=
  ∀ later later', Since history history' later later' → ∀ inputs,
    b.run later' session' inputs = b.run later session inputs

/-- The session of a stage. -/
def Sessions.of (sessions : Sessions S) : Stage → S
  | .variance => sessions.variance
  | .embedder => sessions.embedder
  | .decoder => sessions.decoder

/-- The sessions of two voices answer alike, stage by stage. -/
def Sessions.Interchangeable (b : Backend S) (history history' : History S)
    (sessions sessions' : Sessions S) : Prop :=
  ∀ stage, b.Interchangeable history history' (sessions.of stage) (sessions'.of stage)

theorem Backend.Plays.interchangeable {b : Backend S} {conduct : Conduct}
    {history history' : History S} {session session' : S} {stage : Stage} {model : ByteArray}
    {options : SessionOptions} (h : b.Plays conduct history session stage model options)
    (h' : b.Plays conduct history' session' stage model options) :
    b.Interchangeable history history' session session' := by
  intro later later' since inputs
  rw [h later since.1, h' later' since.2]

/-! ## Stages -/

section

variable (b : Backend S) {history history' later later' : History S}
  (since : Since history history' later later')

include since

theorem agree_runSession {session session' : S} (stage : Stage)
    (alike : b.Interchangeable history history' session session') (inputs : List NamedTensor) :
    Agree (Since history history') (b.runSession stage session inputs)
      (b.runSession stage session' inputs) later later' := by
  refine .of_eq ?_ ?_
  · rw [outcome_runSession, outcome_runSession, alike later later' since inputs]
  · rw [outcome_runSession, outcome_runSession]
    exact since.trans ⟨List.prefix_append _ _, List.prefix_append _ _⟩

theorem agree_runForOutput {session session' : S} (stage : Stage)
    (alike : b.Interchangeable history history' session session') (inputs : List NamedTensor)
    (name : String) :
    Agree (Since history history') (b.runForOutput stage session inputs name)
      (b.runForOutput stage session' inputs name) later later' := by
  refine .bind (agree_runSession b since stage alike inputs) fun outputs _ _ since => ?_
  split
  · exact .throw _ since
  · split
    · exact .pure ⟨rfl, since⟩
    · exact .throw _ since

theorem agree_variance {sessions sessions' : Sessions S}
    (alike : sessions.Interchangeable b history history' sessions') (phonemes accents : List Int)
    (speaker : Int64) :
    Agree (Since history history') (b.variance sessions phonemes accents speaker)
      (b.variance sessions' phonemes accents speaker) later later' := by
  rw [variance_eq, variance_eq]
  split
  · exact .throw _ since
  · split
    · exact .pure ⟨rfl, since⟩
    · refine .bind (.lift _ since) fun inputs _ _ since => ?_
      refine .bind (agree_runSession b since _ (alike .variance) inputs) fun outputs _ _ since => ?_
      exact .lift _ since

theorem agree_embed {session session' : S}
    (alike : b.Interchangeable history history' session session') (phonemes : List Int)
    (pitches : List Float32) (speaker : Int64) :
    Agree (Since history history') (b.embed session phonemes pitches speaker)
      (b.embed session' phonemes pitches speaker) later later' := by
  refine .bind (.lift _ since) fun inputs _ _ since => ?_
  refine .bind (agree_runForOutput b since _ alike inputs _) fun output _ _ since => ?_
  exact .lift _ since

theorem agree_decode {session session' : S}
    (alike : b.Interchangeable history history' session session') (frames : Matrix) :
    Agree (Since history history') (b.decode session frames) (b.decode session' frames)
      later later' := by
  rw [decode_eq, decode_eq]
  split
  · exact .pure ⟨rfl, since⟩
  · refine .bind (.lift _ since) fun input _ _ since => ?_
    refine .bind (agree_runForOutput b since _ alike [input] _) fun output _ _ since => ?_
    exact .pure ⟨rfl, since⟩

theorem agree_decodeForward {sessions sessions' : Sessions S}
    (alike : sessions.Interchangeable b history history' sessions') (phonemes : List Int)
    (pitches durations : List Float32) (speaker : Int64) :
    Agree (Since history history') (b.decodeForward sessions phonemes pitches durations speaker)
      (b.decodeForward sessions' phonemes pitches durations speaker) later later' := by
  rw [decodeForward_eq, decodeForward_eq]
  split
  · exact .throw _ since
  · split
    · exact .pure ⟨rfl, since⟩
    · refine .bind (agree_embed b since (alike .embedder) phonemes pitches speaker) ?_
      intro features _ _ since
      refine .bind (.lift _ since) fun frames _ _ since => ?_
      exact agree_decode b since (alike .decoder) frames

end

end KanaVoice
