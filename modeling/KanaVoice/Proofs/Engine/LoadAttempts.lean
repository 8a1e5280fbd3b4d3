import KanaVoice.Proofs.Engine.LoadStates
set_option autoImplicit false

/-!
# Loads of a started engine

A started engine loads as its options say.  A library that is loaded is left alone; any other one is
loaded by one attempt, and if the attempt fails, nothing but the history has changed, so the next
attempt is one with the same models.
-/

namespace KanaVoice

variable {S : Type} (b : Backend S)

namespace Catalogue

variable {c : Catalogue S} {speaker : Int64} {l : VoiceLibrary S}

/-- Loading for a speaker is loading the speaker's library. -/
theorem outcome_load_of_library? (found : c.library? speaker = some l) (history : History S) :
    outcome (c.load b speaker) history =
      match outcome (l.load b c.plan) history with
      | (.ok l', history) => (.ok (c.replace l'), history)
      | (.error fault, history) => (.error fault, history) := by
  unfold load
  rw [library_eq_ok_iff.2 found, outcome_bind, outcome_liftM]
  simp only []
  rw [outcome_bind]
  cases outcome (l.load b c.plan) history with
  | mk answer history' => cases answer <;> rfl

/-- A library that has not been loaded by requests is still the speaker's, as it was. -/
theorem Advance.library?_of_not_loaded {asked : Int64 → Prop} {events : List (Event S)}
    {c' : Catalogue S} (h : c.Advance asked events c') (found : c.library? speaker = some l)
    (notLoaded : c'.isLoaded speaker = false) : c'.library? speaker = some l := by
  obtain ⟨f, libraries, each⟩ := h.libraries
  have here := each l (mem_of_library? found)
  have found' : c'.library? speaker = some (f l) := by
    rw [library?_of_map libraries fun other mem => (each other mem).speakers, found,
      Option.map_some]
  unfold isLoaded at notLoaded
  rw [found'] at notLoaded
  rw [found', (here.missed notLoaded).1]

end Catalogue

/-- The voices with a library put in the place of the one of its name. -/
def Voices.withLibrary (v : Voices S) (l : VoiceLibrary S) : Voices S :=
  { v with catalogue := v.catalogue.replace l }

namespace Engine

variable {v : Voices S} {e : Engine S} {speaker : Int64} {l : VoiceLibrary S}

/-- Loading for a request is loading the speaker's library, which is put in its place if that
succeeds. -/
theorem outcome_requireLoaded_of_library? (started : e.voices = some v)
    (found : v.catalogue.library? speaker = some l) :
    outcome (requireLoaded b speaker) e =
      match outcome (l.load b v.catalogue.plan) e.history with
      | (.ok l', history) =>
        (.ok (v.withLibrary l'), { voices := some (v.withLibrary l'), history })
      | (.error fault, history) => (.error fault, { voices := some v, history }) := by
  rw [outcome_requireLoaded_of_started b started, Catalogue.outcome_load_of_library? b found]
  cases outcome (l.load b v.catalogue.plan) e.history with
  | mk answer history => cases answer <;> rfl

theorem outcome_requireLoaded_of_loaded (started : e.voices = some v)
    (distinct : v.catalogue.Distinct) (found : v.catalogue.library? speaker = some l)
    (loaded : l.isLoaded = true) : outcome (requireLoaded b speaker) e = (.ok v, e) := by
  obtain ⟨sessions, state⟩ := VoiceLibrary.isLoaded_eq_true_iff.1 loaded
  have same : v.withLibrary l = v := by
    unfold Voices.withLibrary
    rw [Catalogue.replace_of_mem distinct (Catalogue.mem_of_library? found)]
  rw [outcome_requireLoaded_of_library? b started found, outcome_load_of_loaded b state]
  simp only [same]
  rw [← started]

theorem outcome_requireLoaded_of_unloaded {models : ModelFiles} (started : e.voices = some v)
    (found : v.catalogue.library? speaker = some l) (state : l.state = .unloaded models) :
    ∃ events result, Attempt v.catalogue.plan l models events result ∧
      outcome (requireLoaded b speaker) e =
        match result with
        | .ok sessions =>
          (.ok (v.withLibrary (l.withSessions sessions)),
            { voices := some (v.withLibrary (l.withSessions sessions))
              history := e.history ++ events })
        | .error fault => (.error fault, { voices := some v, history := e.history ++ events }) := by
  obtain ⟨events, result, attempt, run⟩ :=
    outcome_load_of_unloaded b state v.catalogue.plan e.history
  refine ⟨events, result, attempt, ?_⟩
  rw [outcome_requireLoaded_of_library? b started found, run]
  cases result <;> rfl

/-- A refusal leaves the voices as they were. -/
theorem voices_of_refused {models : ModelFiles} {fault : Fault} {e' : Engine S}
    (started : e.voices = some v) (found : v.catalogue.library? speaker = some l)
    (state : l.state = .unloaded models)
    (refused : outcome (requireLoaded b speaker) e = (.error fault, e')) : e'.voices = some v := by
  obtain ⟨events, result, -, run⟩ := outcome_requireLoaded_of_unloaded b started found state
  rw [refused] at run
  cases result with
  | ok sessions => cases run
  | error cause => exact congrArg (·.2.voices) run

/-- How an engine with these voices loads. -/
structure LoadContract (b : Backend S) (options : CatalogueOptions) (e : Engine S) (v : Voices S) :
    Prop where
  /-- The decoders are on an accelerator exactly when the options want it. -/
  plan : Catalogue.Follows b.devices options v.catalogue.plan
  /-- A library that is loaded is left alone. -/
  loaded : ∀ (l : VoiceLibrary S) (history : History S), l.isLoaded = true →
    outcome (l.load b v.catalogue.plan) history = (.ok l, history)
  /-- Any other one is loaded by an attempt. -/
  unloaded : ∀ (l : VoiceLibrary S) (models : ModelFiles) (history : History S),
    l.state = .unloaded models →
      ∃ events result, Attempt v.catalogue.plan l models events result ∧
        outcome (l.load b v.catalogue.plan) history =
          (result.map l.withSessions, history ++ events)
  /-- A request for a loaded speaker makes no call and changes nothing. -/
  idle : ∀ speaker l, v.catalogue.library? speaker = some l → l.isLoaded = true →
    outcome (requireLoaded b speaker) e = (.ok v, e)
  /-- A request for any other speaker attempts to load the speaker's library.  A failure leaves the
  voices as they were. -/
  attempted : ∀ speaker l models, v.catalogue.library? speaker = some l →
    l.state = .unloaded models →
      ∃ events result, Attempt v.catalogue.plan l models events result ∧
        outcome (requireLoaded b speaker) e =
          match result with
          | .ok sessions =>
            (.ok (v.withLibrary (l.withSessions sessions)),
              { voices := some (v.withLibrary (l.withSessions sessions))
                history := e.history ++ events })
          | .error fault => (.error fault, { voices := some v, history := e.history ++ events })
  /-- After a failure, whatever is requested in between, the next attempt is one with the same
  models. -/
  retried : ∀ speaker l models fault e', v.catalogue.library? speaker = some l →
    l.state = .unloaded models → outcome (requireLoaded b speaker) e = (.error fault, e') →
      ∀ later : List Request, (serve b later e').isLoaded speaker = false →
        ∃ events result, Attempt v.catalogue.plan l models events result ∧
          (outcome (requireLoaded b speaker) (serve b later e')).2.history =
            (serve b later e').history ++ events

/-- An engine that was started, whatever has been requested and has failed since, loads as its
options say. -/
theorem loadContract_of_start {tree : FileTree} {root : Path} {options : CatalogueOptions}
    {e₀ e₁ : Engine S} (opened : outcome (start b tree root options) e₀ = (.ok (), e₁))
    (requests : List Request) :
    ∃ v, (serve b requests e₁).voices = some v ∧
      LoadContract b options (serve b requests e₁) v := by
  obtain ⟨v₁, opening, started₁, -, recorded₁, follows⟩ := recorded_of_start b opened
  obtain ⟨v, during, started, -, advance, recorded⟩ :=
    recorded_of_serve b started₁ recorded₁ requests
  refine ⟨v, started, ?_⟩
  constructor
  case plan =>
    rw [advance.plan]
    exact follows
  case loaded =>
    intro l history loaded
    obtain ⟨sessions, state⟩ := VoiceLibrary.isLoaded_eq_true_iff.1 loaded
    exact outcome_load_of_loaded b state history
  case unloaded =>
    intro l models history state
    exact outcome_load_of_unloaded b state v.catalogue.plan history
  case idle =>
    intro speaker l found loaded
    exact outcome_requireLoaded_of_loaded b started recorded.distinct found loaded
  case attempted =>
    intro speaker l models found state
    exact outcome_requireLoaded_of_unloaded b started found state
  case retried =>
    intro speaker l models fault e' found state failed later notLoaded
    have voices := voices_of_refused b started found state failed
    obtain ⟨more, v', -, started', -, advance'⟩ :=
      (advance_serve b later e').started v voices recorded.distinct
    rw [isLoaded_of_started started'] at notLoaded
    have found' := advance'.library?_of_not_loaded found notLoaded
    obtain ⟨events', result', attempt', run'⟩ :=
      outcome_requireLoaded_of_unloaded b started' found' state
    rw [advance'.plan] at attempt'
    refine ⟨events', result', attempt', ?_⟩
    rw [run']
    cases result' <;> rfl

/-- A request to load a speaker leaves the engine as loading does. -/
theorem serve_load (speaker : Int64) (requests : List Request) (e : Engine S) :
    serve b (.load speaker :: requests) e =
      serve b requests (outcome (requireLoaded b speaker) e).2 := by
  have same : (outcome (Request.op b (.load speaker)) e).2 =
      (outcome (requireLoaded b speaker) e).2 := by
    simp only [Request.op, loadModel]
    rw [outcome_bind, outcome_bind]
    cases outcome (requireLoaded b speaker) e with
    | mk answer e' => cases answer <;> rfl
  exact congrArg (serve b requests) same

/-- If the speaker is loaded afterwards, the attempt came to an end. -/
theorem LoadContract.attempt_of_taken {b : Backend S} {options : CatalogueOptions}
    {models : ModelFiles} (contract : LoadContract b options e v)
    (found : v.catalogue.library? speaker = some l) (state : l.state = .unloaded models)
    (taken : (outcome (requireLoaded b speaker) e).2.isLoaded speaker = true) :
    ∃ events sessions, Attempt v.catalogue.plan l models events (.ok sessions) ∧
      (outcome (requireLoaded b speaker) e).2.history = e.history ++ events := by
  obtain ⟨events, result, attempt, run⟩ := contract.attempted speaker l models found state
  rw [run] at taken ⊢
  cases result with
  | ok sessions => exact ⟨events, sessions, attempt, rfl⟩
  | error cause =>
    have notLoaded := VoiceLibrary.isLoaded_eq_false_iff.2 ⟨models, state⟩
    rw [isLoaded_of_started rfl, Catalogue.isLoaded, found] at taken
    simp only [notLoaded, Bool.false_eq_true] at taken

/-- A backend with an accelerator that is busy when it is first given a decoder. -/
def busyBackend : Backend Stage where
  devices := { cuda := true }
  load history stage _ _ :=
    if stage = .decoder ∧ history.length < 3 then .error "busy" else .ok stage
  run := questionBackend.run

/-- The stage and the device of a load, and whether the model was taken. -/
def loadAnswer? : Event S → Option (Stage × Device × Bool)
  | .load _ stage _ options answer => some (stage, options.device, answer.toBool)
  | _ => none

theorem outcome_start_busy : ∃ (done : Unit) (e₁ : Engine Stage),
    outcome (start busyBackend questionTree ⟨"voices"⟩ { useGpu := true }) {} = (.ok done, e₁) ∧
      (∃ v ∈ e₁.voices, ∃ l ∈ v.catalogue.library? 7, l.isLoaded = false) ∧
      asCheck (outcome (requireLoaded busyBackend 7) e₁).1 =
        .error (.modelFormat ⟨"voices/first/decoder_model.onnx"⟩ "busy") ∧
      (serve busyBackend [.load 7] e₁).history.filterMap loadAnswer? =
        [(.variance, .cpu, true), (.embedder, .cpu, true), (.decoder, .cuda, false)] ∧
      (serve busyBackend [.load 7, .load 7] e₁).isLoaded 7 = true :=
  exists_answer (by decide +kernel)

/-- Without an accelerator the contract is that of the processor.  A busy one refuses the decoder,
which changes nothing but the history.  The next attempt presents the same three models again, and
the decoder is warmed up. -/
theorem loadContract_of_start_busy :
    (∃ e₁ v, outcome (start questionBackend questionTree ⟨"voices"⟩ {}) {} = (.ok (), e₁) ∧
      e₁.isLoaded 7 = false ∧ e₁.voices = some v ∧ LoadContract questionBackend {} e₁ v) ∧
    ∃ (e₁ e₂ : Engine Stage) (v : Voices Stage) (l : VoiceLibrary Stage) (models : ModelFiles)
      (sessions : Sessions Stage) (answer : Except String (List NamedTensor)),
    outcome (start busyBackend questionTree ⟨"voices"⟩ { useGpu := true }) {} = (.ok (), e₁) ∧
      LoadContract busyBackend { useGpu := true } e₁ v ∧
      v.catalogue.library? 7 = some l ∧ l.state = .unloaded models ∧
      outcome (requireLoaded busyBackend 7) e₁ =
        (.error (.modelFormat ⟨"voices/first/decoder_model.onnx"⟩ "busy"), e₂) ∧
      e₂.history.filterMap loadAnswer? =
        [(.variance, .cpu, true), (.embedder, .cpu, true), (.decoder, .cuda, false)] ∧
      LoadContract busyBackend { useGpu := true } e₂ v ∧
      (outcome (requireLoaded busyBackend 7) e₂).2.history = e₂.history ++
        [.load l.name .variance models.variance ⟨.cpu, 0⟩ (.ok sessions.variance),
         .load l.name .embedder models.embedder ⟨.cpu, 0⟩ (.ok sessions.embedder),
         .load l.name .decoder models.decoder ⟨.cuda, 0⟩ (.ok sessions.decoder),
         .run .decoder sessions.decoder [warmUpTensor] answer] := by
  constructor
  · obtain ⟨e₁, opened, unloaded, -⟩ := outcome_start_question
    obtain ⟨v, started, contract⟩ := loadContract_of_start questionBackend opened []
    exact ⟨e₁, v, opened, unloaded, started, contract⟩
  obtain ⟨⟨⟩, e₁, opened, ⟨v, isVoices, l, isLibrary, notLoaded⟩, refusal, refused, taken⟩ :=
    outcome_start_busy
  obtain ⟨models, state⟩ := VoiceLibrary.isLoaded_eq_false_iff.1 notLoaded
  obtain ⟨_, started, contract⟩ : ∃ v, e₁.voices = some v ∧ LoadContract busyBackend _ e₁ v :=
    loadContract_of_start busyBackend opened []
  cases started.symm.trans isVoices
  have failed : outcome (requireLoaded busyBackend 7) e₁ =
      (.error (.modelFormat ⟨"voices/first/decoder_model.onnx"⟩ "busy"),
        (outcome (requireLoaded busyBackend 7) e₁).2) :=
    Prod.ext (asCheck_eq_error_iff.1 refusal) rfl
  -- The engine after the refusal keeps the same contract.
  obtain ⟨_, started', contract'⟩ := loadContract_of_start busyBackend opened [.load 7]
  rw [serve_load] at started' contract' refused
  rw [serve_load, serve_load] at taken
  cases started'.symm.trans (voices_of_refused busyBackend started isLibrary state failed)
  obtain ⟨events, sessions, attempt, history⟩ :=
    contract'.attempt_of_taken isLibrary state taken
  have device : v.catalogue.plan.decoderDevice = .cuda := (Except.ok.inj contract.plan.device).symm
  have threads : v.catalogue.plan.threads = 0 := contract.plan.threads
  cases attempt with
  | taken _ warmUp isWarmUp =>
    rw [IsWarmUp, contract.plan.gpu, if_pos rfl] at isWarmUp
    obtain ⟨answer, rfl⟩ := isWarmUp
    rw [device, threads] at history
    exact ⟨e₁, _, v, l, models, sessions, answer, opened, contract, isLibrary, state, failed,
      refused, contract', history⟩

end Engine

end KanaVoice
