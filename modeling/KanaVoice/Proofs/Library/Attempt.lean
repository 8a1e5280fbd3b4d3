import KanaVoice.Proofs.Library.Loading
import KanaVoice.Proofs.Transition
set_option autoImplicit false

/-!
# Attempts to load a library

Loading a library that is not loaded is an attempt: its models are presented to the backend one
after another, up to the first that is refused.  If all three are taken, the library has its
sessions, and a decoder on an accelerator is warmed up; otherwise nothing has changed but the
history.
-/

namespace KanaVoice

variable {S : Type}

/-! ## Loads in a history -/

/-- A model of the library of this name was presented. -/
def Event.IsLoadOf (name : String) : Event S → Prop
  | .load library .. => library = name
  | _ => False

/-- The decoder of the library of this name was presented and taken. -/
def Event.IsDecoderOf (name : String) : Event S → Prop
  | .load library .decoder _ _ (.ok _) => library = name
  | _ => False

theorem not_isDecoderOf {event : Event S} {name : String} (h : ¬ event.IsLoadOf name) :
    ¬ event.IsDecoderOf name := by
  intro decoder
  unfold Event.IsDecoderOf at decoder
  split at decoder
  · exact h decoder
  · exact decoder

/-- Among the events the three models of a library were presented one after another, and all three
were taken. -/
def FullyLoaded (name : String) (events : List (Event S)) : Prop :=
  ∃ (before after : List (Event S)) (models : ModelFiles) (variance embedder decoder :
      SessionOptions) (sessions : Sessions S),
    events = before ++
      [.load name .variance models.variance variance (.ok sessions.variance),
       .load name .embedder models.embedder embedder (.ok sessions.embedder),
       .load name .decoder models.decoder decoder (.ok sessions.decoder)] ++ after

namespace FullyLoaded

variable {name : String} {events more : List (Event S)}

theorem append_left (h : FullyLoaded name events) : FullyLoaded name (more ++ events) := by
  obtain ⟨before, after, models, v, e, d, sessions, rfl⟩ := h
  exact ⟨more ++ before, after, models, v, e, d, sessions, by simp only [List.append_assoc]⟩

theorem append_right (h : FullyLoaded name events) : FullyLoaded name (events ++ more) := by
  obtain ⟨before, after, models, v, e, d, sessions, rfl⟩ := h
  exact ⟨before, after ++ more, models, v, e, d, sessions, by simp only [List.append_assoc]⟩

/-- The decoder was the last of the three. -/
theorem exists_isDecoderOf (h : FullyLoaded name events) :
    ∃ event ∈ events, event.IsDecoderOf name := by
  obtain ⟨before, after, models, v, e, d, sessions, rfl⟩ := h
  refine ⟨.load name .decoder models.decoder d (.ok sessions.decoder), ?_, rfl⟩
  simp

end FullyLoaded

/-! ## Attempts -/

/-- The library with its models loaded into sessions. -/
def VoiceLibrary.withSessions (l : VoiceLibrary S) (sessions : Sessions S) : VoiceLibrary S :=
  { l with state := .loaded sessions }

/-- The calls of an attempt and what comes of it.  Only the decoder may leave the processor, and a
refusal names the file of its stage. -/
inductive Attempt (plan : LoadPlan) (l : VoiceLibrary S) (models : ModelFiles) :
    List (Event S) → Except Fault (Sessions S) → Prop
  | varianceRefused (reason : String) :
    Attempt plan l models
      [.load l.name .variance models.variance ⟨.cpu, plan.threads⟩ (.error reason)]
      (.error (.modelFormat (Stage.path .variance l.folder) reason))
  | embedderRefused (variance : S) (reason : String) :
    Attempt plan l models
      [.load l.name .variance models.variance ⟨.cpu, plan.threads⟩ (.ok variance),
       .load l.name .embedder models.embedder ⟨.cpu, plan.threads⟩ (.error reason)]
      (.error (.modelFormat (Stage.path .embedder l.folder) reason))
  | decoderRefused (variance embedder : S) (reason : String) :
    Attempt plan l models
      [.load l.name .variance models.variance ⟨.cpu, plan.threads⟩ (.ok variance),
       .load l.name .embedder models.embedder ⟨.cpu, plan.threads⟩ (.ok embedder),
       .load l.name .decoder models.decoder ⟨plan.decoderDevice, plan.threads⟩ (.error reason)]
      (.error (.modelFormat (Stage.path .decoder l.folder) reason))
  | taken (sessions : Sessions S) (warmUp : List (Event S)) :
    IsWarmUp plan sessions.decoder warmUp →
    Attempt plan l models
      ([.load l.name .variance models.variance ⟨.cpu, plan.threads⟩ (.ok sessions.variance),
        .load l.name .embedder models.embedder ⟨.cpu, plan.threads⟩ (.ok sessions.embedder),
        .load l.name .decoder models.decoder ⟨plan.decoderDevice, plan.threads⟩
          (.ok sessions.decoder)] ++ warmUp)
      (.ok sessions)

namespace Attempt

variable {plan : LoadPlan} {l : VoiceLibrary S} {models : ModelFiles} {events : List (Event S)}
  {sessions : Sessions S} {fault : Fault}

/-- An attempt presents models of its own library and runs a decoder, and does nothing else. -/
theorem kind_of_mem {kind : Event S → Prop} {result : Except Fault (Sessions S)}
    (load : ∀ stage model options answer, kind (.load l.name stage model options answer))
    (decoder : ∀ session inputs answer, kind (.run .decoder session inputs answer))
    (h : Attempt plan l models events result) : ∀ event ∈ events, kind event := by
  cases h with
  | varianceRefused reason => simp [load]
  | embedderRefused variance reason => simp [load]
  | decoderRefused variance embedder reason => simp [load]
  | taken sessions warmUp isWarmUp =>
    refine List.forall_mem_append.2 ⟨by simp [load], ?_⟩
    unfold IsWarmUp at isWarmUp
    split at isWarmUp
    · obtain ⟨answer, rfl⟩ := isWarmUp
      simp [decoder]
    · rw [isWarmUp]
      exact nofun

theorem eq_name_of_isLoadOf {result : Except Fault (Sessions S)}
    (h : Attempt plan l models events result) :
    ∀ event ∈ events, ∀ name, event.IsLoadOf name → name = l.name := by
  refine h.kind_of_mem ?_ ?_
  · intro stage model options answer name load
    exact load.symm
  · intro session inputs answer name load
    exact load.elim

theorem fullyLoaded (h : Attempt plan l models events (.ok sessions)) :
    FullyLoaded l.name events := by
  cases h with
  | taken _ warmUp isWarmUp => exact ⟨[], warmUp, models, _, _, _, sessions, rfl⟩

theorem not_isDecoderOf_of_error (h : Attempt plan l models events (.error fault)) (name : String) :
    ∀ event ∈ events, ¬ event.IsDecoderOf name := by
  cases h <;> simp [Event.IsDecoderOf]

end Attempt

/-! ## What a load does -/

section

variable (b : Backend S)

theorem outcome_loadStage (plan : LoadPlan) (l : VoiceLibrary S) (stage : Stage)
    (model : ByteArray) (history : History S) :
    ∃ answer, outcome (l.loadStage b plan stage model) history =
      (answer.mapError (.modelFormat (stage.path l.folder)),
        history ++ [.load l.name stage model (plan.options stage) answer]) :=
  ⟨_, rfl⟩

/-- Loading a library that is not loaded is an attempt, and only a success changes it. -/
theorem outcome_load_of_unloaded {l : VoiceLibrary S} {models : ModelFiles}
    (state : l.state = .unloaded models) (plan : LoadPlan) (history : History S) :
    ∃ events result, Attempt plan l models events result ∧
      outcome (l.load b plan) history = (result.map l.withSessions, history ++ events) := by
  unfold VoiceLibrary.load
  rw [state]
  simp only []
  rw [outcome_bind]
  obtain ⟨reason | variance, first⟩ :=
    outcome_loadStage b plan l .variance models.variance history
  · rw [first]
    exact ⟨_, _, .varianceRefused reason, rfl⟩
  rw [first]
  simp only [Except.mapError]
  rw [outcome_bind]
  obtain ⟨reason | embedder, second⟩ :=
    outcome_loadStage b plan l .embedder models.embedder (history ++ [_])
  · rw [second]
    refine ⟨_, _, .embedderRefused variance reason, ?_⟩
    rw [List.append_assoc]
    rfl
  rw [second]
  simp only [Except.mapError]
  rw [outcome_bind]
  obtain ⟨reason | decoder, third⟩ :=
    outcome_loadStage b plan l .decoder models.decoder (history ++ [_] ++ [_])
  · rw [third]
    refine ⟨_, _, .decoderRefused variance embedder reason, ?_⟩
    rw [List.append_assoc, List.append_assoc]
    rfl
  rw [third]
  simp only [Except.mapError]
  obtain ⟨warmUp, isWarmUp, fourth⟩ := outcome_warmUp b plan decoder (history ++ [_] ++ [_] ++ [_])
  rw [outcome_bind, fourth]
  refine ⟨_, _, .taken ⟨variance, embedder, decoder⟩ warmUp isWarmUp, ?_⟩
  simp only [List.append_assoc]
  rfl

section

variable {kind : Event S → Prop}
  (load : ∀ library stage model options answer, kind (.load library stage model options answer))
  (decoder : ∀ session inputs answer, kind (.run .decoder session inputs answer))

include load decoder

theorem VoiceLibrary.moves_load (plan : LoadPlan) (l : VoiceLibrary S) :
    Moves (Appends kind) (l.load b plan) := by
  intro history
  cases state : l.state with
  | loaded sessions =>
    rw [outcome_load_of_loaded b state]
    exact Std.Refl.refl history
  | unloaded models =>
    obtain ⟨events, result, attempt, run⟩ := outcome_load_of_unloaded b state plan history
    rw [run]
    exact ⟨events, rfl, attempt.kind_of_mem (load l.name) decoder⟩

theorem Catalogue.moves_load (c : Catalogue S) (speaker : Int64) :
    Moves (Appends kind) (c.load b speaker) := by
  refine .bind (.lift _) fun l => ?_
  refine .bind (l.moves_load b load decoder c.plan) fun loaded => ?_
  exact .pure _

end

end

end KanaVoice
