import KanaVoice.Proofs.Engine.MissingModels
set_option autoImplicit false

/-!
# Which fault of a forward call comes first

Four things can stand in the way of a forward call, and any of them at once: the engine has no
voices, no library belongs to the speaker, the speaker's models are not loaded, and the lists do not
fit together.  They are reported in this order, each on its own terms, and before all of them are
ruled out nothing is asked of the backend.  Then sessions are run, but none is ever loaded, and what
may still fail is the work of the stages.
-/

namespace KanaVoice

variable {S : Type} (b : Backend S)

/-- The event is a run of a session. -/
def Event.IsRun : Event S → Prop
  | .run .. => True
  | _ => False

namespace Engine

/-! ## Hurdles -/

/-- What can stand in the way of a forward call. -/
inductive Hurdle where
  | voices
  | speaker
  | models
  | lengths
  deriving DecidableEq, Repr

/-- All hurdles in the order in which they are reported. -/
def hurdles : List Hurdle := [.voices, .speaker, .models, .lengths]

/-- A library of the engine belongs to the speaker. -/
def serves (e : Engine S) (speaker : Int64) : Bool :=
  match e.voices with
  | some v => (v.catalogue.library? speaker).isSome
  | none => false

/-- Passes if the condition holds. -/
def demand (condition : Bool) (fault : Fault) : Except Fault Unit :=
  if condition then .ok () else .error fault

@[simp] theorem demand_true (fault : Fault) : demand true fault = .ok () := rfl

/-- Whether a hurdle is taken; what is wrong with the lists is known from them alone. -/
def Hurdle.result (e : Engine S) (speaker : Int64) (lengths : Except Fault Unit) :
    Hurdle → Except Fault Unit
  | .voices => demand e.isStarted .notInitialized
  | .speaker => demand (e.serves speaker) (.unknownSpeaker speaker)
  | .models => demand (e.isLoaded speaker) (.modelNotLoaded speaker)
  | .lengths => lengths

/-- There is an accent mark for each phoneme. -/
def marksFit (phonemes accents : List Int) : Except Fault Unit :=
  if phonemes.length = accents.length then .ok ()
  else .error (.inference .variance (.unalignedAccents phonemes.length accents.length))

/-- There are a pitch and a length for each phoneme. -/
def prosodyFits (phonemes : List Int) (pitches durations : List Float32) : Except Fault Unit :=
  if pitches.length = phonemes.length ∧ durations.length = phonemes.length then .ok ()
  else .error (.inference .embedder
    (.unalignedProsody phonemes.length pitches.length durations.length))

/-- The sessions that the engine has for a speaker. -/
def sessions (e : Engine S) (speaker : Int64) : Except Fault (Sessions S) :=
  match e.voices with
  | some v => v.catalogue.sessions speaker
  | none => .error .notInitialized

/-- The first three hurdles are taken where sessions are looked up. -/
theorem forM_hurdles (e : Engine S) (speaker : Int64) (lengths : Except Fault Unit) :
    forM hurdles (Hurdle.result e speaker lengths) =
      (e.sessions speaker >>= fun _ => lengths) := by
  obtain ⟨voices, history⟩ := e
  have last : (lengths >>= fun _ => pure ()) = lengths := by cases lengths <;> rfl
  simp only [hurdles, List.forM_cons, List.forM_nil, Hurdle.result, last]
  unfold sessions isStarted serves isLoaded
  cases voices with
  | none => rfl
  | some v =>
    simp only [Option.isSome_some, demand_true, except_ok_bind]
    unfold Catalogue.sessions Catalogue.library Catalogue.isLoaded VoiceLibrary.isLoaded
    cases v.catalogue.library? speaker with
    | none => rfl
    | some l =>
      simp only [Option.isSome_some, demand_true, except_ok_bind]
      cases l.state <;> rfl

/-! ## Forward calls -/

/-- How a forward call for a speaker goes that is given lists of some lengths. -/
structure Ranked {α : Type} (e : Engine S) (speaker : Int64) (lengths : Except Fault Unit)
    (x : Op S α) : Prop where
  decided : Passes (Hurdle.result e speaker lengths) hurdles ∨
    ∃ fault, FailsFirst (Hurdle.result e speaker lengths) hurdles fault
  /-- The first hurdle that is not taken decides, and nothing has happened. -/
  refused : ∀ fault, FailsFirst (Hurdle.result e speaker lengths) hurdles fault →
    outcome x e = (.error fault, e)
  /-- Otherwise sessions are run, the engine stays as it is but for that, and only a stage can
  fail. -/
  worked : Passes (Hurdle.result e speaker lengths) hurdles →
    ∃ answer events, outcome x e = (answer, { e with history := e.history ++ events }) ∧
      (∀ event ∈ events, event.IsRun) ∧ ∀ fault, answer = .error fault → fault.IsOfWork

theorem outcome_forward {α : Type} (run : Sessions S → Calls S α) (e : Engine S)
    (speaker : Int64) :
    outcome (do
      let v ← requireVoices
      let sessions ← liftM (v.catalogue.sessions speaker)
      perform (run sessions)) e =
      match e.sessions speaker with
      | .ok sessions => outcome (perform (run sessions)) e
      | .error fault => (.error fault, e) := by
  rw [outcome_bind, outcome_requireVoices, sessions]
  cases e.voices with
  | none => rfl
  | some v =>
    simp only []
    rw [outcome_bind, outcome_liftM]
    cases v.catalogue.sessions speaker <;> rfl

section

variable {α : Type} {run : Sessions S → Calls S α} {lengths : Except Fault Unit}
  (unaligned : ∀ fault sessions, lengths = .error fault → run sessions = throw fault)
  (work : lengths = .ok () → ∀ sessions, Yields (run sessions) (fun _ => True) Fault.IsOfWork)
  (runs : ∀ sessions, Moves (Appends Event.IsRun) (run sessions))

include unaligned work runs

/-- A call that looks at the lengths at first and then runs sessions. -/
theorem ranked_forward (e : Engine S) (speaker : Int64) :
    Ranked e speaker lengths (do
      let v ← requireVoices
      let sessions ← liftM (v.catalogue.sessions speaker)
      perform (run sessions)) := by
  constructor
  case decided => exact passes_or_failsFirst _ _
  case refused =>
    intro fault fails
    rw [← forM_eq_error_iff, forM_hurdles] at fails
    rw [outcome_forward]
    rcases except_bind_eq_error_iff.1 fails with missing | ⟨sessions, found, unfit⟩
    · rw [missing]
    · rw [found]
      simp only []
      rw [unaligned fault sessions unfit]
      rfl
  case worked =>
    intro pass
    rw [← forM_eq_ok_iff, forM_hurdles] at pass
    obtain ⟨sessions, found, fit⟩ := except_bind_eq_ok_iff.1 pass
    obtain ⟨events, grown, areRuns⟩ := runs sessions e.history
    refine ⟨(outcome (run sessions) e.history).1, events, ?_, areRuns, ?_⟩
    · rw [outcome_forward, found]
      simp only []
      rw [outcome_perform, grown]
    · intro fault failed
      exact (work fit sessions).fault (Prod.ext failed rfl)

end

theorem ranked_varianceForward (e : Engine S) (phonemes accents : List Int) (speaker : Int64) :
    Ranked e speaker (marksFit phonemes accents)
      (varianceForward b phonemes accents speaker) := by
  refine ranked_forward ?_ ?_ ?_ e speaker
  · intro fault sessions unfit
    unfold marksFit at unfit
    split at unfit
    case isTrue => cases unfit
    case isFalse different =>
      cases unfit
      rw [variance_eq, if_pos different]
  · intro fit sessions
    unfold marksFit at fit
    split at fit
    case isTrue same =>
      refine .ofFault fun run => ?_
      exact (yields_variance b same.symm).fault run
    case isFalse => cases fit
  · exact fun sessions => moves_variance b fun _ _ _ => trivial

theorem ranked_decodeForward (e : Engine S) (phonemes : List Int)
    (pitches durations : List Float32) (speaker : Int64) :
    Ranked e speaker (prosodyFits phonemes pitches durations)
      (decodeForward b phonemes pitches durations speaker) := by
  refine ranked_forward ?_ ?_ ?_ e speaker
  · intro fault sessions unfit
    unfold prosodyFits at unfit
    split at unfit
    case isTrue => cases unfit
    case isFalse different =>
      cases unfit
      rw [decodeForward_eq, if_pos (not_and_or.1 different)]
  · intro fit sessions
    unfold prosodyFits at fit
    split at fit
    case isTrue same => exact yields_decodeForward b same.1 same.2
    case isFalse => cases fit
  · intro sessions
    exact moves_decodeForward b (fun _ _ => trivial) (fun _ _ => trivial) _ _ _ _

/-- Both forward calls go like this, and nothing else that an engine is asked for, in whatever
order, is answered that models are not loaded. -/
theorem ranked_and_mayMiss (e : Engine S) :
    (∀ (phonemes accents : List Int) (speaker : Int64),
      Ranked e speaker (marksFit phonemes accents)
        (varianceForward b phonemes accents speaker)) ∧
    (∀ (phonemes : List Int) (pitches durations : List Float32) (speaker : Int64),
      Ranked e speaker (prosodyFits phonemes pitches durations)
        (decodeForward b phonemes pitches durations speaker)) ∧
    ∀ (steps : List Step) (step : Step) (speaker : Int64),
      (step, .error (.modelNotLoaded speaker)) ∈ transcript b steps e → step.MayMiss speaker := by
  refine ⟨?_, ?_, ?_⟩
  · exact fun phonemes accents speaker => ranked_varianceForward b e phonemes accents speaker
  · exact fun phonemes pitches durations speaker =>
      ranked_decodeForward b e phonemes pitches durations speaker
  · exact fun steps step speaker mem => mayMiss_of_mem_transcript b mem

theorem failsFirst_question :
    FailsFirst (Hurdle.result questionEngine 7 (marksFit [0] [])) hurdles (.modelNotLoaded 7) :=
  forM_eq_error_iff.1 (by decide +kernel)

/-- The models of the speaker are missing and an accent mark is missing too. -/
theorem ranked_and_mayMiss_question :
    outcome (varianceForward questionBackend [0] [] 7) questionEngine =
        (.error (.modelNotLoaded 7), questionEngine) ∧
      (.ask (.variance [0] [] 7), .error (.modelNotLoaded 7)) ∈
        transcript questionBackend [.ask (.variance [0] [] 7)] questionEngine ∧
      Step.MayMiss 7 (.ask (.variance [0] [] 7)) := by
  obtain ⟨variance, -, steps⟩ := ranked_and_mayMiss questionBackend questionEngine
  have refused := (variance [0] [] 7).refused _ failsFirst_question
  have answer : (outcome (Step.op questionBackend (.ask (.variance [0] [] 7)))
      questionEngine).1 = .error (.modelNotLoaded 7) := by
    show (outcome (varianceForward questionBackend [0] [] 7 >>= _) questionEngine).1 = _
    rw [outcome_bind, refused]
  have mem : (Step.ask (.variance [0] [] 7), .error (.modelNotLoaded 7)) ∈
      transcript questionBackend [.ask (.variance [0] [] 7)] questionEngine := by
    rw [transcript, answer]
    exact List.mem_cons_self
  exact ⟨refused, mem, steps _ _ _ mem⟩

end Engine

end KanaVoice
