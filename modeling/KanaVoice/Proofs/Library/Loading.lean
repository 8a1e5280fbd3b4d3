import KanaVoice.Proofs.Inference.Stages
set_option autoImplicit false

/-!
# Loading a library

A load either finds the library loaded and does nothing, or loads the three models in order and,
with the decoder on an accelerator, runs the decoder once on silence.  Afterwards the library's
sessions are there, and loading it again changes nothing.
-/

namespace KanaVoice

variable {S : Type} (b : Backend S)

/-! ## The warm-up -/

theorem length_values_zeros (rows columns : Nat) :
    (Matrix.zeros rows columns).values.length = rows * columns := by
  simp [Matrix.values, Matrix.zeros]

theorem shapeFault?_warmUp :
    shapeFault? [1, warmUpFrames, warmUpColumns]
      (TensorData.float32 (Matrix.zeros warmUpFrames warmUpColumns).values).count = none := by
  rw [TensorData.count, length_values_zeros]
  decide

theorem length_rows_zeros (rows columns : Nat) : (Matrix.zeros rows columns).rows.length = rows :=
  List.length_replicate

/-- What a decoder is warmed up with. -/
def warmUpTensor : NamedTensor where
  name := "feature_embedded"
  shape := [1, warmUpFrames, warmUpColumns]
  data := .float32 (Matrix.zeros warmUpFrames warmUpColumns).values
  fits := shapeFault?_warmUp

theorem history_decode_zeros (decoder : S) {rows columns : Nat} {input : NamedTensor}
    (nonempty : rows ≠ 0)
    (tensor : NamedTensor.float32 "feature_embedded" [1, rows, columns]
      (Matrix.zeros rows columns).values = .ok input) (history : History S) :
    (outcome (b.decode decoder (Matrix.zeros rows columns)) history).2 =
      history ++ [.run .decoder decoder [input] (b.run history decoder [input])] := by
  have size : (Matrix.zeros rows columns).rows.length = rows := length_rows_zeros rows columns
  refine history_decode b decoder (by rwa [size]) ?_ history
  rw [size]
  exact tensor

theorem state_outcome_discard {σ α : Type} (x : ExceptT Fault (StateM σ) α) (s : σ) :
    (outcome (do let _ ← x) s).2 = (outcome x s).2 := by
  rw [outcome_bind]
  cases run : outcome x s with
  | mk answer s' => cases answer <;> rfl

theorem history_warmUp (decoder : S) (history : History S) :
    (outcome (b.warmUp decoder) history).2 =
      (outcome (b.decode decoder (Matrix.zeros warmUpFrames warmUpColumns)) history).2 := by
  rw [Backend.warmUp]
  exact state_outcome_discard _ history

/-- The calls of a warm-up: one run on an accelerator, none on the processor. -/
def IsWarmUp (plan : LoadPlan) (decoder : S) (events : List (Event S)) : Prop :=
  if plan.decoderDevice.isGpu then ∃ answer, events = [.run .decoder decoder [warmUpTensor] answer]
  else events = []

theorem outcome_warmUp (plan : LoadPlan) (decoder : S) (history : History S) :
    ∃ events, IsWarmUp plan decoder events ∧
      outcome (VoiceLibrary.warmUp b plan decoder) history = (.ok (), history ++ events) := by
  by_cases gpu : plan.decoderDevice.isGpu
  · refine ⟨[.run .decoder decoder [warmUpTensor] (b.run history decoder [warmUpTensor])], ?_, ?_⟩
    · rw [IsWarmUp, if_pos gpu]
      exact ⟨_, rfl⟩
    · have ran := history_warmUp b decoder history
      rw [history_decode_zeros b decoder (by decide) (ofData_of_fits shapeFault?_warmUp)] at ran
      simp only [outcome, VoiceLibrary.warmUp, gpu, if_true]
      exact congrArg _ ran
  · refine ⟨[], ?_, ?_⟩
    · rw [IsWarmUp, if_neg gpu]
    · simp [outcome, VoiceLibrary.warmUp, gpu]

/-! ## One library -/

theorem outcome_loadStage_eq_ok_iff {plan : LoadPlan} {l : VoiceLibrary S} {stage : Stage}
    {model : ByteArray} {session : S} {history history' : History S} :
    outcome (l.loadStage b plan stage model) history = (.ok session, history') ↔
      b.load history stage model (plan.options stage) = .ok session ∧
      history' = history ++ [.load l.name stage model (plan.options stage) (.ok session)] := by
  show (Except.mapError _ (b.load history stage model (plan.options stage)), _) = _ ↔ _
  rw [Prod.mk.injEq, mapError_eq_ok_iff]
  constructor
  · rintro ⟨answer, rfl⟩
    exact ⟨answer, by rw [← answer]⟩
  · rintro ⟨answer, rfl⟩
    exact ⟨answer, by rw [← answer]⟩

theorem yields_loadStage (plan : LoadPlan) (l : VoiceLibrary S) (stage : Stage)
    (model : ByteArray) :
    Yields (l.loadStage b plan stage model) (fun _ => True)
      fun f => ∃ reason, f = .modelFormat (stage.path l.folder) reason where
  value _ := trivial
  fault {history _ fault} run := by
    have answer := congrArg Prod.fst run
    change Except.mapError _ (b.load history stage model (plan.options stage)) = _ at answer
    cases loaded : b.load history stage model (plan.options stage) with
    | ok session =>
      rw [loaded] at answer
      cases answer
    | error reason =>
      rw [loaded] at answer
      cases answer
      exact ⟨reason, rfl⟩

/-- The calls by which an unloaded library gets its sessions: three loads and a warm-up. -/
def IsLoading (plan : LoadPlan) (l : VoiceLibrary S) (models : ModelFiles) (sessions : Sessions S)
    (events : List (Event S)) : Prop :=
  ∃ warmUp, IsWarmUp plan sessions.decoder warmUp ∧
    events =
      [.load l.name .variance models.variance (plan.options .variance) (.ok sessions.variance),
       .load l.name .embedder models.embedder (plan.options .embedder) (.ok sessions.embedder),
       .load l.name .decoder models.decoder (plan.options .decoder) (.ok sessions.decoder)] ++
      warmUp

/-- A library after a successful load: it has sessions, and it either had them before or got
them by the calls of a load. -/
structure LoadedBy (plan : LoadPlan) (l loaded : VoiceLibrary S) (sessions : Sessions S)
    (events : List (Event S)) : Prop where
  name : loaded.name = l.name
  speakers : loaded.speakers = l.speakers
  state : loaded.state = .loaded sessions
  calls : (l.state = .loaded sessions ∧ loaded = l ∧ events = []) ∨
    ∃ models, l.state = .unloaded models ∧ IsLoading plan l models sessions events

theorem outcome_load_of_ok {plan : LoadPlan} {l loaded : VoiceLibrary S}
    {history history' : History S}
    (h : outcome (l.load b plan) history = (.ok loaded, history')) :
    ∃ sessions events, LoadedBy plan l loaded sessions events ∧ history' = history ++ events := by
  unfold VoiceLibrary.load at h
  split at h
  case h_1 sessions state =>
    rw [outcome_pure, Prod.mk.injEq, Except.ok.injEq] at h
    obtain ⟨rfl, rfl⟩ := h
    exact ⟨sessions, [], ⟨rfl, rfl, state, .inl ⟨state, rfl, rfl⟩⟩, (List.append_nil _).symm⟩
  case h_2 models state =>
    obtain ⟨variance, _, first, h₁⟩ := outcome_bind_eq_ok_iff.1 h
    obtain ⟨embedder, _, second, h₂⟩ := outcome_bind_eq_ok_iff.1 h₁
    obtain ⟨decoder, r, third, h₃⟩ := outcome_bind_eq_ok_iff.1 h₂
    obtain ⟨_, _, fourth, last⟩ := outcome_bind_eq_ok_iff.1 h₃
    obtain ⟨-, rfl⟩ := (outcome_loadStage_eq_ok_iff b).1 first
    obtain ⟨-, rfl⟩ := (outcome_loadStage_eq_ok_iff b).1 second
    obtain ⟨-, rfl⟩ := (outcome_loadStage_eq_ok_iff b).1 third
    obtain ⟨warmUp, isWarmUp, ran⟩ := outcome_warmUp b plan decoder _
    rw [ran, Prod.mk.injEq] at fourth
    obtain ⟨-, rfl⟩ := fourth
    rw [outcome_pure, Prod.mk.injEq, Except.ok.injEq] at last
    obtain ⟨rfl, rfl⟩ := last
    refine ⟨⟨variance, embedder, decoder⟩, _,
      ⟨rfl, rfl, rfl, .inr ⟨models, state, warmUp, isWarmUp, rfl⟩⟩, ?_⟩
    simp

theorem outcome_load_of_loaded {plan : LoadPlan} {l : VoiceLibrary S} {sessions : Sessions S}
    (state : l.state = .loaded sessions) (history : History S) :
    outcome (l.load b plan) history = (.ok l, history) := by
  unfold VoiceLibrary.load
  rw [state]
  rfl

theorem yields_load (plan : LoadPlan) (l : VoiceLibrary S) :
    Yields (l.load b plan) (fun _ => True)
      fun f => ∃ stage : Stage, ∃ reason, f = .modelFormat (stage.path l.folder) reason := by
  have stage (s model) : Yields (l.loadStage b plan s model) (fun _ => True)
      fun f => ∃ stage : Stage, ∃ reason, f = .modelFormat (stage.path l.folder) reason :=
    ⟨fun _ => trivial, fun run => ⟨s, (yields_loadStage b plan l s model).fault run⟩⟩
  unfold VoiceLibrary.load
  split
  · exact .pure trivial
  · refine .seq (stage _ _) fun _ => .seq (stage _ _) fun _ => .seq (stage _ _) fun decoder => ?_
    refine .seq (.ofFault fun {history _ _} run => ?_) ?_
    · obtain ⟨_, -, ran⟩ := outcome_warmUp b plan decoder history
      rw [ran] at run
      cases run
    · exact fun _ => .pure trivial

/-! ## The library of a speaker -/

namespace Catalogue

variable {c : Catalogue S} {speaker : Int64} {l l' : VoiceLibrary S}

theorem library_eq_ok_iff : c.library speaker = .ok l ↔ c.library? speaker = some l := by
  unfold library
  split <;> simp_all

theorem serves_of_library? (h : c.library? speaker = some l) : l.serves speaker := by
  rw [library?, List.findRev?_eq_find?_reverse] at h
  have served := List.find?_some h
  exact served

/-- Putting a library of the same name and speakers in place keeps who belongs to it. -/
theorem library?_replace (h : c.library? speaker = some l) (name : l'.name = l.name)
    (speakers : l'.speakers = l.speakers) : (c.replace l').library? speaker = some l' := by
  have serves : l'.serves speaker := by
    rw [VoiceLibrary.serves, speakers]
    exact serves_of_library? h
  rw [library?, List.findRev?_eq_find?_reverse] at h ⊢
  rw [replace, ← List.map_reverse]
  generalize c.libraries.reverse = libraries at h
  induction libraries with
  | nil => cases h
  | cons other rest ih =>
    rw [List.map_cons, List.find?_cons]
    by_cases same : other.name = l'.name
    · rw [if_pos same, serves]
    · rw [if_neg same]
      rw [List.find?_cons] at h
      split at h
      · cases h
        exact absurd name.symm same
      case h_2 absent =>
        exact ih h

theorem replace_replace (c : Catalogue S) (l : VoiceLibrary S) :
    (c.replace l).replace l = c.replace l := by
  simp only [replace, List.map_map]
  congr 2
  funext other
  simp only [Function.comp]
  split <;> simp_all

theorem sessions_eq_ok_iff {sessions : Sessions S} :
    c.sessions speaker = .ok sessions ↔
      ∃ l, c.library? speaker = some l ∧ l.state = .loaded sessions := by
  unfold Catalogue.sessions
  rw [except_bind_eq_ok_iff]
  constructor
  · rintro ⟨l, found, state⟩
    split at state
    case h_1 sessions' loaded =>
      cases state
      exact ⟨l, library_eq_ok_iff.1 found, loaded⟩
    case h_2 => cases state
  · rintro ⟨l, found, loaded⟩
    exact ⟨l, library_eq_ok_iff.2 found, by rw [loaded]⟩

/-- Loading the library of a speaker puts the loaded library in its place. -/
theorem outcome_load_of_ok {c' : Catalogue S} {history history' : History S}
    (h : outcome (c.load b speaker) history = (.ok c', history')) :
    ∃ l loaded sessions events, c.library? speaker = some l ∧
      LoadedBy c.plan l loaded sessions events ∧ c' = c.replace loaded ∧
      history' = history ++ events := by
  unfold Catalogue.load at h
  obtain ⟨l, _, first, more⟩ := outcome_bind_eq_ok_iff.1 h
  obtain ⟨found, rfl⟩ := outcome_liftM_eq_ok_iff.1 first
  obtain ⟨loaded, _, second, last⟩ := outcome_bind_eq_ok_iff.1 more
  obtain ⟨sessions, events, isLoaded, rfl⟩ := KanaVoice.outcome_load_of_ok b second
  rw [outcome_pure, Prod.mk.injEq, Except.ok.injEq] at last
  obtain ⟨rfl, rfl⟩ := last
  exact ⟨l, loaded, sessions, events, library_eq_ok_iff.1 found, isLoaded, rfl, rfl⟩

/-- Loading again makes no call and changes nothing. -/
theorem outcome_load_replace {sessions : Sessions S} {loaded : VoiceLibrary S}
    (found : (c.replace loaded).library? speaker = some loaded)
    (state : loaded.state = .loaded sessions) (history : History S) :
    outcome ((c.replace loaded).load b speaker) history = (.ok (c.replace loaded), history) := by
  unfold Catalogue.load
  rw [library_eq_ok_iff.2 found, outcome_bind, outcome_liftM]
  simp only []
  rw [outcome_bind, outcome_load_of_loaded b state]
  simp only []
  rw [replace_replace]
  rfl

theorem failsOnly_library (c : Catalogue S) (speaker : Int64) :
    FailsOnly (· = .unknownSpeaker speaker) (c.library speaker) := by
  unfold Catalogue.library
  split
  · exact .ok _
  · exact .error rfl

theorem failsOnly_sessions (c : Catalogue S) (speaker : Int64) :
    FailsOnly (fun f => f = .unknownSpeaker speaker ∨ f = .modelNotLoaded speaker)
      (c.sessions speaker) := by
  refine .bind ((failsOnly_library c speaker).mono fun _ => .inl) ?_
  intro l _
  split
  · exact .ok _
  · exact .error (.inr rfl)

theorem yields_load (c : Catalogue S) (speaker : Int64) :
    Yields (c.load b speaker) (fun _ => True)
      fun f => f = .unknownSpeaker speaker ∨ ∃ path reason, f = .modelFormat path reason := by
  refine .seq (.liftFault ?_) ?_
  · exact (failsOnly_library c speaker).mono fun _ => .inl
  intro l
  refine .seq (.ofFault fun run => ?_) fun _ => .pure trivial
  obtain ⟨stage, reason, rfl⟩ := (KanaVoice.yields_load b c.plan l).fault run
  exact .inr ⟨_, reason, rfl⟩

end Catalogue

end KanaVoice
