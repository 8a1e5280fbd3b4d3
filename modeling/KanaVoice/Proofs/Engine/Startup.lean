import KanaVoice.Proofs.Engine.Resolution
import KanaVoice.Proofs.Library.Checklist
set_option autoImplicit false

/-!
# Starting an engine

An engine that is started reads everything before it loads anything.  If one of the checks fails,
the start ends with the fault of the first that does, and nothing has been asked of the backend.
Otherwise the engine has the voices that were read, and if everything is to be loaded at once, the
libraries are loaded in the order of their names up to the first failure.  The whole outcome, events
included, is the same under any two trees with the same in the files that are looked at.
-/

namespace KanaVoice

variable {S : Type}

/-! ## Loading in order -/

/-- Attempts on libraries one after another, up to the first that fails. -/
inductive LoadsInOrder (plan : LoadPlan) :
    List (VoiceLibrary S) → List (Event S) → Except Fault (List (VoiceLibrary S)) → Prop
  | done : LoadsInOrder plan [] [] (.ok [])
  | stopped {l : VoiceLibrary S} {rest : List (VoiceLibrary S)} {models : ModelFiles}
      {events : List (Event S)} {fault : Fault} :
    l.state = .unloaded models → Attempt plan l models events (.error fault) →
    LoadsInOrder plan (l :: rest) events (.error fault)
  | next {l : VoiceLibrary S} {rest : List (VoiceLibrary S)} {models : ModelFiles}
      {sessions : Sessions S} {events later : List (Event S)}
      {result : Except Fault (List (VoiceLibrary S))} :
    l.state = .unloaded models → Attempt plan l models events (.ok sessions) →
    LoadsInOrder plan rest later result →
    LoadsInOrder plan (l :: rest) (events ++ later)
      (result.map fun loaded => l.withSessions sessions :: loaded)

theorem outcome_mapM_load_of_unloaded (b : Backend S) (plan : LoadPlan)
    {libraries : List (VoiceLibrary S)} (unloaded : ∀ l ∈ libraries, l.isLoaded = false)
    (history : History S) :
    ∃ events result, LoadsInOrder plan libraries events result ∧
      outcome (libraries.mapM (VoiceLibrary.load b plan)) history =
        (result, history ++ events) := by
  induction libraries generalizing history with
  | nil =>
    refine ⟨[], .ok [], .done, ?_⟩
    rw [List.mapM_nil, outcome_pure, List.append_nil]
  | cons l rest ih =>
    obtain ⟨notLoaded, others⟩ := List.forall_mem_cons.1 unloaded
    obtain ⟨models, state⟩ := VoiceLibrary.isLoaded_eq_false_iff.1 notLoaded
    obtain ⟨events, result, attempt, first⟩ := outcome_load_of_unloaded b state plan history
    rw [List.mapM_cons, outcome_bind, first]
    cases result with
    | error fault => exact ⟨events, .error fault, .stopped state attempt, rfl⟩
    | ok sessions =>
      obtain ⟨later, loaded, inOrder, second⟩ := ih others (history ++ events)
      refine ⟨events ++ later, _, .next state attempt inOrder, ?_⟩
      simp only [Except.map]
      rw [outcome_bind, second, List.append_assoc]
      cases loaded <;> rfl

/-- What stops it is a model that is refused. -/
theorem LoadsInOrder.isModelFormat {plan : LoadPlan} {libraries : List (VoiceLibrary S)}
    {events : List (Event S)} {result : Except Fault (List (VoiceLibrary S))} {fault : Fault}
    (h : LoadsInOrder plan libraries events result) (failed : result = .error fault) :
    ∃ path reason, fault = .modelFormat path reason := by
  induction h with
  | done => cases failed
  | stopped state attempt =>
    cases failed
    cases attempt with
    | varianceRefused reason => exact ⟨_, reason, rfl⟩
    | embedderRefused variance reason => exact ⟨_, reason, rfl⟩
    | decoderRefused variance embedder reason => exact ⟨_, reason, rfl⟩
  | @next _ _ _ _ _ _ result state attempt later ih =>
    cases result with
    | ok loaded => cases failed
    | error cause =>
      cases failed
      exact ih rfl

/-! ## What has been read -/

/-- The voices are what the files under the root say, none of them loaded. -/
structure Voices.IsFresh (devices : DeviceSet) (tree : FileTree) (root : Path)
    (options : CatalogueOptions) (v : Voices S) : Prop where
  symbols : ReadsSymbols tree (root.join "symbols.json") (.ok v.symbols)
  plan : Catalogue.Follows devices options v.catalogue.plan
  libraries : List.Forall₂ (VoiceLibrary.IsReadFrom tree root) (usableNames tree root)
    v.catalogue.libraries

theorem Voices.isFresh_of_read {devices : DeviceSet} {tree : FileTree} {root : Path}
    {options : CatalogueOptions} {v : Voices S}
    (h : Voices.read devices tree root options = .ok v) : v.IsFresh devices tree root options := by
  unfold Voices.read at h
  obtain ⟨symbols, areSymbols, h⟩ := except_bind_eq_ok_iff.1 h
  obtain ⟨catalogue, isRead, h⟩ := except_bind_eq_ok_iff.1 h
  cases h
  obtain ⟨-, -, follows⟩ := Catalogue.of_read isRead
  obtain ⟨m, -, -, isManifest, areRead⟩ := Catalogue.steps_of_read isRead
  refine ⟨loadOrBuiltIn_eq_iff.1 areSymbols, follows, ?_⟩
  rw [usableNames_of_load isManifest]
  exact (forall₂_of_mapM areRead).imp fun _ _ read => VoiceLibrary.isReadFrom_of_read read

/-! ## The outcome of a start -/

namespace Engine

variable (b : Backend S) (tree : FileTree) (root : Path) (options : CatalogueOptions)
  (e : Engine S)

/-- The engine has the voices, with their libraries as they came out of loading, or it has none. -/
def supply (v : Voices S) (history : History S) :
    Except Fault (List (VoiceLibrary S)) → Except Fault Unit × Engine S
  | .ok libraries =>
    (.ok (), { voices := some { v with catalogue := { v.catalogue with libraries } }, history })
  | .error fault => (.error fault, { voices := none, history })

/-- Everything is read before anything is loaded. -/
theorem outcome_start_eq :
    outcome (start b tree root options) e =
      match Voices.read b.devices tree root options with
      | .error fault => (.error fault, e.stop)
      | .ok v =>
        if options.loadAll then
          let (loaded, history) :=
            outcome (v.catalogue.libraries.mapM (VoiceLibrary.load b v.catalogue.plan)) e.history
          supply v history loaded
        else (.ok (), { voices := some v, history := e.history }) := by
  rw [outcome_start]
  unfold Voices.read Catalogue.openAt
  cases SymbolTable.loadOrBuiltIn tree root with
  | error fault => rfl
  | ok symbols =>
    simp only [except_ok_bind]
    rw [outcome_bind, outcome_liftM]
    cases Catalogue.read b.devices tree root options with
    | error fault => rfl
    | ok c =>
      simp only [except_ok_bind]
      by_cases eager : options.loadAll
      · rw [if_pos eager, if_pos eager, Catalogue.loadAll, outcome_bind]
        cases outcome (c.libraries.mapM (VoiceLibrary.load b c.plan)) e.history with
        | mk loaded history => cases loaded <;> rfl
      · rw [if_neg eager, if_neg eager, outcome_pure]

/-- How a start goes. -/
structure StartsInOrder : Prop where
  /-- The libraries that are looked at are those that their list says are usable, in the order of
  their names. -/
  usable : ∀ name, name ∈ usableNames tree root ↔
    ∃ m, ReadsJson tree (root.join "libraries.json") Manifest.ofJson? (.ok m) ∧ (name, true) ∈ m
  ascending : (usableNames tree root).Pairwise fun a b => Text.bytes a < Text.bytes b
  decided : AllInOrder b.devices tree root options ∨
    ∃ fault, FirstBroken b.devices tree root options fault
  /-- The first check that is broken decides, and nothing has been asked of the backend. -/
  refused : ∀ fault, FirstBroken b.devices tree root options fault →
    outcome (start b tree root options) e = (.error fault, e.stop)
  /-- If nothing is broken, the voices are there, and nothing has been asked of the backend
  either. -/
  supplied : AllInOrder b.devices tree root options → options.loadAll = false →
    ∃ v : Voices S, v.IsFresh b.devices tree root options ∧
      outcome (start b tree root options) e = (.ok (), { voices := some v, history := e.history })
  /-- Unless everything is to be loaded at once. -/
  loaded : AllInOrder b.devices tree root options → options.loadAll = true →
    ∃ (v : Voices S) (events : List (Event S)) (libraries : Except Fault (List (VoiceLibrary S))),
      v.IsFresh b.devices tree root options ∧
      LoadsInOrder v.catalogue.plan v.catalogue.libraries events libraries ∧
      outcome (start b tree root options) e = supply v (e.history ++ events) libraries
  /-- No other file matters. -/
  sameFiles : ∀ tree', SameFiles root tree tree' →
    outcome (start b tree' root options) e = outcome (start b tree root options) e

/-- Every start goes like this, under any tree and whatever the backend does. -/
theorem startsInOrder : StartsInOrder b tree root options e where
  usable _ := mem_usableNames_iff.trans isUsable_iff
  ascending := pairwise_usableNames tree root
  decided := allInOrder_or_firstBroken b.devices tree root options
  refused fault fails := by
    rw [outcome_start_eq, readVoices_eq_error_iff.2 fails]
  supplied inOrder lazily := by
    obtain ⟨v, isRead⟩ := exists_readVoices_iff.2 inOrder
    refine ⟨v, Voices.isFresh_of_read isRead, ?_⟩
    rw [outcome_start_eq, isRead]
    simp only [lazily, Bool.false_eq_true, if_false]
  loaded inOrder eager := by
    obtain ⟨v, isRead⟩ := exists_readVoices_iff.2 inOrder
    have fresh := Voices.isFresh_of_read isRead
    obtain ⟨events, libraries, loads, run⟩ :=
      outcome_mapM_load_of_unloaded b v.catalogue.plan
        (VoiceLibrary.unloaded_of_isReadFrom fresh.libraries) e.history
    refine ⟨v, events, libraries, fresh, loads, ?_⟩
    rw [outcome_start_eq, isRead]
    simp only [eager, if_true, run]
  sameFiles tree' same := by
    rw [outcome_start_eq, outcome_start_eq, same.readVoices]

/-- The shared files without the speakers and the decoder of the last usable library. -/
def brokenTree : FileTree :=
  (sharedTree.remove ["voices", "b", "metas.json"]).remove ["voices", "b", "decoder_model.onnx"]

theorem firstBroken_of_lists :
    FirstBroken questionBackend.devices brokenTree ⟨"voices"⟩ { loadAll := true }
      (.manifest (.unreadable ⟨"voices/b/metas.json"⟩ .notFound)) :=
  failsFirst_result_iff.1 (forM_eq_error_iff.1 (by decide +kernel))

theorem firstBroken_of_model :
    FirstBroken questionBackend.devices (sharedTree.remove ["voices", "b", "decoder_model.onnx"])
      ⟨"voices"⟩ { loadAll := true }
      (.manifest (.noModel ⟨"voices/b/decoder_model.onnx"⟩ .notFound)) :=
  failsFirst_result_iff.1 (forM_eq_error_iff.1 (by decide +kernel))

theorem sameFiles_broken :
    SameFiles ⟨"voices"⟩ brokenTree (brokenTree.remove ["voices", "c"]) := by
  decide +kernel

/-- Of two missing files the first is reported, and nothing is loaded although the other library is
complete.  It is the same without the folder of the library that may not be used.  A model file that
alone is missing, the last of all, is reported as well before anything is loaded. -/
theorem startsInOrder_broken :
    outcome (start questionBackend brokenTree ⟨"voices"⟩ { loadAll := true }) {} =
        (.error (.manifest (.unreadable ⟨"voices/b/metas.json"⟩ .notFound)), {}) ∧
      outcome (start questionBackend (brokenTree.remove ["voices", "c"]) ⟨"voices"⟩
          { loadAll := true }) {} =
        outcome (start questionBackend brokenTree ⟨"voices"⟩ { loadAll := true }) {} ∧
      outcome (start questionBackend (sharedTree.remove ["voices", "b", "decoder_model.onnx"])
          ⟨"voices"⟩ { loadAll := true }) {} =
        (.error (.manifest (.noModel ⟨"voices/b/decoder_model.onnx"⟩ .notFound)), {}) := by
  have two := startsInOrder questionBackend brokenTree ⟨"voices"⟩ { loadAll := true } {}
  have one := startsInOrder questionBackend
    (sharedTree.remove ["voices", "b", "decoder_model.onnx"]) ⟨"voices"⟩ { loadAll := true } {}
  exact ⟨two.refused _ firstBroken_of_lists, two.sameFiles _ sameFiles_broken,
    one.refused _ firstBroken_of_model⟩

end Engine

end KanaVoice
