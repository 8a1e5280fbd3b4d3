import KanaVoice.Proofs.Engine.Steps
set_option autoImplicit false

/-!
# When models are loaded

Models may be loaded when an engine is started, by a request of their own, or on the way of the
first request that needs them.  With a backend that takes every model this makes no difference to
anything that is spoken: two lives of an engine that differ in nothing but when models are loaded
have the same answers, apart from those that tell the load state.
-/

namespace KanaVoice

variable {S : Type}

namespace Engine

/-! ## Lives that differ in their loads -/

/-- Two lives differ only in loads on request and in what their starts load. -/
inductive SameButLoads : List Step → List Step → Prop
  | nil : SameButLoads [] []
  | inserted {steps steps' : List Step} (speaker : Int64) : SameButLoads steps steps' →
    SameButLoads steps (.ask (.load speaker) :: steps')
  | removed {steps steps' : List Step} (speaker : Int64) : SameButLoads steps steps' →
    SameButLoads (.ask (.load speaker) :: steps) steps'
  | restarted {steps steps' : List Step} (tree : FileTree) (root : Path)
      (options : CatalogueOptions) (loadAll : Bool) : SameButLoads steps steps' →
    SameButLoads (.start tree root options :: steps)
      (.start tree root { options with loadAll } :: steps')
  | common {steps steps' : List Step} (step : Step) : SameButLoads steps steps' →
    SameButLoads (step :: steps) (step :: steps')

/-- The step is a load on request. -/
def Step.isLoad : Step → Bool
  | .ask (.load _) => true
  | _ => false

/-- What a request that observes a load state is answered if the models are not loaded. -/
def Request.unloadedAnswer? : Request → Option (Except Fault Reply)
  | .isLoaded _ => some (.ok (.flag false))
  | .variance _ _ speaker | .decode _ _ _ speaker => some (.error (.modelNotLoaded speaker))
  | _ => none

/-- Two entries of transcripts agree: the step is the same, up to what a start loads, and so is the
answer, unless one of the two answers is that the models are not loaded. -/
inductive EntriesAgree : Step × Except Fault Reply → Step × Except Fault Reply → Prop
  | same (step : Step) (answer : Except Fault Reply) : EntriesAgree (step, answer) (step, answer)
  | restarted (tree : FileTree) (root : Path) (options : CatalogueOptions) (loadAll : Bool)
      (answer : Except Fault Reply) :
    EntriesAgree (.start tree root options, answer)
      (.start tree root { options with loadAll }, answer)
  | unloaded {request : Request} {answer answer' : Except Fault Reply} :
    request.unloadedAnswer? = some answer ∨ request.unloadedAnswer? = some answer' →
      EntriesAgree (.ask request, answer) (.ask request, answer')

/-- A transcript without the loads on request. -/
def loadFree (entries : List (Step × Except Fault Reply)) : List (Step × Except Fault Reply) :=
  entries.filter fun entry => !entry.1.isLoad

/-! ## Requests -/

section

variable {b : Backend S} {conduct : Conduct} {e e' : Engine S} {v : Voices S} {request : Request}
  {speaker : Int64}

/-- A forward call of a speaker without sessions fails for want of these. -/
theorem outcome_forward_of_error {α : Type} {run : Sessions S → Calls S α} {fault : Fault}
    (started : e.voices = some v) (missing : v.catalogue.sessions speaker = .error fault) :
    outcome (do
      let v ← requireVoices
      let sessions ← liftM (v.catalogue.sessions speaker)
      perform (run sessions)) e = (.error fault, e) := by
  rw [outcome_bind, outcome_requireVoices_of_started started]
  simp only []
  rw [outcome_bind, missing]
  rfl

variable (observes : request.observes? = some speaker)

include observes

/-- A request that observes the load state of a library finds it unloaded. -/
theorem unloadedAnswer?_of_unloaded {l : VoiceLibrary S} (started : e.voices = some v)
    (found : v.catalogue.library? speaker = some l) (unloaded : l.isLoaded = false) :
    request.unloadedAnswer? = some (outcome (request.op b) e).1 := by
  have missing := Catalogue.sessions_of_unloaded found unloaded
  cases request with
  | isLoaded _ =>
    cases observes
    show _ = some (Except.ok (Reply.flag (e.isLoaded speaker)))
    rw [isLoaded_of_started started, Catalogue.isLoaded_of_library? found, unloaded]
    rfl
  | variance phonemes accents _ =>
    cases observes
    unfold Request.op varianceForward
    rw [outcome_bind, outcome_forward_of_error started missing]
    rfl
  | decode phonemes pitches durations _ =>
    cases observes
    unfold Request.op decodeForward
    rw [outcome_bind, outcome_forward_of_error started missing]
    rfl
  | _ => cases observes

/-- Where the models of a speaker are loaded in one of two alike engines only, the other one says
that they are not. -/
theorem unloadedAnswer?_of_alike (h : Alike b conduct false e e')
    (unloaded : e.isLoaded speaker = false) (loaded : e'.isLoaded speaker = true) :
    request.unloadedAnswer? = some (outcome (request.op b) e).1 := by
  cases h with
  | stopped left right => simp [isLoaded, right] at loaded
  | @started v v' left right voices =>
    rw [isLoaded_of_started left] at unloaded
    rw [isLoaded_of_started right] at loaded
    have alike := voices.catalogue.library? speaker
    cases found : v.catalogue.library? speaker with
    | none =>
      cases found' : v'.catalogue.library? speaker with
      | none => simp [Catalogue.isLoaded, found'] at loaded
      | some l' =>
        rw [found, found'] at alike
        cases alike
    | some l =>
      rw [Catalogue.isLoaded_of_library? found] at unloaded
      exact unloadedAnswer?_of_unloaded observes left found unloaded

end

section

variable {b : Backend S} {conduct : Conduct} (follows : b.Follows conduct)

include follows

/-- Alike engines answer a request alike, up to the load state that it asks for. -/
theorem entriesAgree_ask {e e' : Engine S} (h : Alike b conduct false e e') (request : Request) :
    EntriesAgree (.ask request, (outcome (request.op b) e).1)
      (.ask request, (outcome (request.op b) e').1) := by
  by_cases states : ∀ speaker, request.observes? = some speaker →
      e'.isLoaded speaker = e.isLoaded speaker
  case pos =>
    rw [(agree_request follows h request states).answer]
    exact .same _ _
  case neg =>
    push Not at states
    obtain ⟨speaker, observes, differ⟩ := states
    cases first : e.isLoaded speaker with
    | false =>
      have second : e'.isLoaded speaker = true := by simpa [first] using differ
      exact .unloaded (.inl (unloadedAnswer?_of_alike observes h first second))
    | true =>
      have second : e'.isLoaded speaker = false := by simpa [first] using differ
      exact .unloaded (.inr (unloadedAnswer?_of_alike observes h.symm second first))

/-! ## Steps -/

/-- A step leaves alike engines alike, and its entries agree. -/
theorem entriesAgree_step {e e' : Engine S} (h : Alike b conduct false e e') (step : Step) :
    EntriesAgree (step, (outcome (step.op b) e).1) (step, (outcome (step.op b) e').1) ∧
      Alike b conduct false (outcome (step.op b) e).2 (outcome (step.op b) e').2 := by
  cases step with
  | start tree root options =>
    have agree := agree_start_step follows tree root options e e'
    rw [agree.answer]
    exact ⟨.same _ _, agree.state.loosen⟩
  | stop => exact ⟨.same _ _, .stopped rfl rfl⟩
  | ask request => exact ⟨entriesAgree_ask follows h request, h.serve follows [request] [request]⟩

variable (taken : conduct.TakesAll)

include taken

/-- After two starts that differ in what they load at most, lives go on alike if they do so from
alike engines. -/
theorem entriesAgree_start {steps steps' : List Step}
    (later : ∀ {e e' : Engine S}, Alike b conduct false e e' →
      List.Forall₂ EntriesAgree (loadFree (transcript b steps e))
        (loadFree (transcript b steps' e')))
    (tree : FileTree) (root : Path) (options : CatalogueOptions) (loadAll : Bool)
    (e e' : Engine S) :
    List.Forall₂ EntriesAgree (loadFree (transcript b (.start tree root options :: steps) e))
      (loadFree (transcript b (.start tree root { options with loadAll } :: steps') e')) := by
  have agree : Agree (Alike b conduct false) (Step.op b (.start tree root options))
      (Step.op b (.start tree root { options with loadAll })) e e' :=
    (agree_start_loadAll follows taken tree root options loadAll e e').map _
  rw [transcript, transcript, agree.answer]
  exact .cons (.restarted tree root options loadAll _) (later agree.state)

/-- The induction is on how the lives differ: a load in one of them goes unnoticed in the other. -/
theorem entriesAgree_of_alike {steps steps' : List Step} (same : SameButLoads steps steps')
    {e e' : Engine S} (h : Alike b conduct false e e') :
    List.Forall₂ EntriesAgree (loadFree (transcript b steps e))
      (loadFree (transcript b steps' e')) := by
  induction same generalizing e e' with
  | nil => exact .nil
  | inserted speaker _ ih => exact ih (h.serve follows [] [.load speaker])
  | removed speaker _ ih => exact ih (h.serve follows [.load speaker] [])
  | restarted tree root options loadAll _ ih =>
    exact entriesAgree_start follows taken ih tree root options loadAll e e'
  | common step _ ih =>
    obtain ⟨entry, alike⟩ := entriesAgree_step follows h step
    unfold loadFree at ih ⊢
    rw [transcript, transcript, List.filter_cons, List.filter_cons]
    cases step.isLoad with
    | true => exact ih alike
    | false => exact .cons entry (ih alike)

/-- Two lives that begin with a start under one root, and differ in nothing but when models are
loaded, have the same answers, up to the load states that are asked for. -/
theorem answers_of_sameButLoads {steps steps' : List Step} (same : SameButLoads steps steps')
    (tree : FileTree) (root : Path) (options : CatalogueOptions) (loadAll : Bool)
    (e e' : Engine S) :
    List.Forall₂ EntriesAgree (loadFree (transcript b (.start tree root options :: steps) e))
      (loadFree (transcript b (.start tree root { options with loadAll } :: steps') e')) :=
  entriesAgree_start follows taken (fun alike => entriesAgree_of_alike follows taken same alike)
    tree root options loadAll e e'

end

/-- One life loads when it starts, the other on request, before a question is asked. -/
theorem answers_of_sameButLoads_question :
    questionBackend.Follows questionConduct ∧ questionConduct.TakesAll ∧
      List.Forall₂ EntriesAgree
        (loadFree (transcript questionBackend
          [.start questionTree ⟨"voices"⟩ {}, .ask (.load 7), .ask (.kanaSound "カ'？" 7)] {}))
        (loadFree (transcript questionBackend
          [.start questionTree ⟨"voices"⟩ { loadAll := true }, .ask (.kanaSound "カ'？" 7)]
          {})) := by
  have taken : questionConduct.TakesAll := fun _ _ _ => rfl
  refine ⟨follows_question, taken, ?_⟩
  exact answers_of_sameButLoads follows_question taken
    (.removed 7 (.common (.ask (.kanaSound "カ'？" 7)) .nil)) questionTree ⟨"voices"⟩ {} true {} {}

end Engine

end KanaVoice
