import KanaVoice.Proofs.Engine.Startup
import KanaVoice.Proofs.Engine.Steps
set_option autoImplicit false

/-!
# Who can miss models

That the models of a speaker are not loaded is said where sessions are looked up, and nowhere else.
An operation that has loaded them before finds them, whatever the backend answers in between, so
only the two forward calls can miss models: they look up sessions without loading any.  An analyzer
may hand in any fault, this one included, and then it is passed on.
-/

namespace KanaVoice

variable {S : Type} (b : Backend S)

/-- The fault says that the models of a speaker are not loaded. -/
def Fault.MissesModels : Fault → Prop
  | .modelNotLoaded _ => True
  | _ => False

theorem Fault.IsOfStages.not_missesModels {fault : Fault} (h : fault.IsOfStages) :
    ¬ fault.MissesModels := by
  intro misses
  unfold MissesModels at misses
  split at misses
  case h_1 => exact h
  case h_2 => exact misses

/-- Wherever it starts, the computation does not fail for want of models. -/
def NeverMisses {σ α : Type} (x : ExceptT Fault (StateM σ) α) : Prop :=
  Yields x (fun _ => True) fun fault => ¬ fault.MissesModels

/-! ## Steps that know nothing of models -/

theorem neverMisses_encode {σ : Type} (symbols : SymbolTable) (phrases : List AccentPhrase) :
    NeverMisses (liftM (encode symbols phrases) : ExceptT Fault (StateM σ) Encoding) := by
  refine .liftFault ((failsOnly_encode symbols phrases).mono fun fault kind => ?_)
  obtain ⟨kind, symbol, rfl⟩ := kind
  exact id

theorem failsOnly_placeValues (what : String)
    (place : AccentPhrase → List Float32 → Option (AccentPhrase × List Float32))
    (phrases : List AccentPhrase) (values : List Float32) :
    FailsOnly Fault.IsOfStages (placeValues what place phrases values) := by
  unfold placeValues
  simp only []
  split
  · exact .error trivial
  · split
    · exact .ok _
    · exact .error trivial

theorem neverMisses_placeValues {σ : Type} (what : String)
    (place : AccentPhrase → List Float32 → Option (AccentPhrase × List Float32))
    (phrases : List AccentPhrase) (values : List Float32) :
    NeverMisses (liftM (placeValues what place phrases values) :
      ExceptT Fault (StateM σ) (List AccentPhrase)) :=
  .liftFault ((failsOnly_placeValues ..).mono fun _ => (·.not_missesModels))

theorem failsOnly_readKana (text : String) :
    FailsOnly (fun fault => ∃ cause, fault = .kana text cause) (Kana.read text) := by
  unfold Kana.read
  split
  · exact .ok _
  · exact .mapError _ fun cause => ⟨cause, rfl⟩

theorem neverMisses_readKana {σ : Type} (text : String) :
    NeverMisses (liftM (Kana.read text) : ExceptT Fault (StateM σ) (List AccentPhrase)) := by
  refine .liftFault ((failsOnly_readKana text).mono fun fault kind => ?_)
  obtain ⟨cause, rfl⟩ := kind
  exact id

theorem not_missesModels_of_readsJson {α : Type} {tree : FileTree} {path : Path}
    {decode : Json.Decoder α} {fault : Fault}
    (h : ReadsJson tree path decode (.error fault)) : ¬ fault.MissesModels := by
  cases h <;> exact id

theorem not_missesModels_of_isBroken {devices : DeviceSet} {tree : FileTree} {root : Path}
    {options : CatalogueOptions} {check : Check} {fault : Fault}
    (h : check.IsBroken devices tree root options fault) : ¬ fault.MissesModels := by
  cases check with
  | symbols =>
    cases (show ReadsSymbols tree (root.join "symbols.json") (.error fault) from h) <;> exact id
  | device =>
    obtain ⟨-, -, rfl⟩ := h
    exact id
  | libraryList => exact not_missesModels_of_readsJson h
  | speakers library => exact not_missesModels_of_readsJson h
  | model library stage =>
    obtain ⟨cause, -, rfl⟩ := h
    exact id

/-! ## Voices that have the models -/

namespace Voices

/-- The speaker's models are loaded. -/
def HasModels (v : Voices S) (speaker : Int64) : Prop :=
  ∃ sessions, v.catalogue.sessions speaker = .ok sessions

namespace HasModels

variable {v : Voices S} {speaker : Int64} (h : v.HasModels speaker)

include h

theorem sessions :
    NeverMisses (liftM (v.catalogue.sessions speaker) : Calls S (Sessions S)) := by
  obtain ⟨sessions, found⟩ := h
  rw [found]
  exact .liftFault (.ok sessions)

theorem predict (phrases : List AccentPhrase) : NeverMisses (v.predict b phrases speaker) := by
  refine .seq (neverMisses_encode _ _) fun encoding => ?_
  refine .seq h.sessions fun sessions => ?_
  exact (yields_variance_isOfStages b _ _ _ _).monoFault fun _ => (·.not_missesModels)

theorem predictLengths (phrases : List AccentPhrase) :
    NeverMisses (v.predictLengths b phrases speaker) := by
  refine .seq (h.predict b phrases) fun prediction => ?_
  exact .seq (neverMisses_placeValues ..) fun placed => .pure trivial

theorem predictPitches (phrases : List AccentPhrase) (known : Option (List Float32)) :
    NeverMisses (v.predictPitches b phrases speaker known) := by
  cases known with
  | some pitches => exact neverMisses_placeValues ..
  | none => exact .seq (h.predict b phrases) fun prediction => neverMisses_placeValues ..

theorem predictProsody (phrases : List AccentPhrase) :
    NeverMisses (v.predictProsody b phrases speaker) :=
  .seq (h.predictLengths b phrases) fun _ => h.predictPitches b _ _

theorem speak (query : AudioQuery) (upspeak : Bool) :
    NeverMisses (v.speak b query speaker upspeak) := by
  refine .seq (neverMisses_encode _ _) fun encoding => ?_
  refine .seq h.sessions fun sessions => ?_
  refine .seq ?_ fun wave => ?_
  · exact (yields_decodeForward_isOfStages b _ _ _ _ _).monoFault fun _ => (·.not_missesModels)
  · refine .liftFault ((failsOnly_padSilence ..).mono fun fault kind => ?_)
    obtain ⟨what, seconds, rfl⟩ := kind
    exact id

end HasModels

end Voices

/-! ## Operations that load -/

namespace Engine

variable {speaker : Int64}

theorem neverMisses_requireVoices : NeverMisses (requireVoices : Op S (Voices S)) := by
  refine .ofFault fun {e _ fault} run => ?_
  rw [outcome_requireVoices] at run
  split at run
  · cases run
  · cases run
    exact id

/-- Asking for loaded voices gives voices that have the models. -/
theorem yields_requireLoaded_hasModels (speaker : Int64) :
    Yields (requireLoaded b speaker) (fun v => v.HasModels speaker)
      fun fault => ¬ fault.MissesModels where
  value {e _ v} run := by
    cases started : e.voices with
    | none =>
      unfold requireLoaded at run
      rw [outcome_bind, outcome_requireVoices, started] at run
      cases run
    | some v' =>
      obtain ⟨_, _, sessions, _, _, _, _, ready, _⟩ := outcome_requireLoaded_of_ok b started run
      exact ⟨sessions, ready.sessions⟩
  fault run := by
    rcases fault_of_requireLoaded b run with rfl | rfl | ⟨path, reason, rfl⟩
    · exact id
    · exact id
    · exact id

theorem neverMisses_loadModel : NeverMisses (loadModel b speaker) :=
  .bind (yields_requireLoaded_hasModels b speaker) fun _ _ => .pure trivial

theorem neverMisses_speakersJson : NeverMisses (speakersJson : Op S String) :=
  .seq neverMisses_requireVoices fun _ => .pure trivial

theorem neverMisses_replaceProsody (phrases : List AccentPhrase) :
    NeverMisses (replaceProsody b phrases speaker) :=
  .bind (yields_requireLoaded_hasModels b speaker) fun _ loaded =>
    yields_perform (loaded.predictProsody b phrases)

theorem neverMisses_replaceLengths (phrases : List AccentPhrase) :
    NeverMisses (replaceLengths b phrases speaker) := by
  refine .bind (yields_requireLoaded_hasModels b speaker) fun v loaded => ?_
  exact .seq (yields_perform (loaded.predictLengths b phrases)) fun _ => .pure trivial

theorem neverMisses_replacePitches (phrases : List AccentPhrase) :
    NeverMisses (replacePitches b phrases speaker) :=
  .bind (yields_requireLoaded_hasModels b speaker) fun _ loaded =>
    yields_perform (loaded.predictPitches b phrases none)

theorem neverMisses_synthesize (query : AudioQuery) (upspeak : Bool) :
    NeverMisses (synthesize b query speaker upspeak) :=
  .bind (yields_requireLoaded_hasModels b speaker) fun _ loaded =>
    yields_perform (loaded.speak b query upspeak)

theorem neverMisses_synthesizeWav (query : AudioQuery) (upspeak : Bool) :
    NeverMisses (synthesizeWav b query speaker upspeak) :=
  .seq (neverMisses_synthesize b query upspeak) fun _ => .pure trivial

theorem neverMisses_kanaToWav (kana : String) : NeverMisses (kanaToWav b kana speaker) := by
  refine .seq neverMisses_requireVoices fun _ => ?_
  refine .seq (neverMisses_readKana kana) fun phrases => ?_
  refine .seq (neverMisses_replaceProsody b phrases) fun placed => ?_
  exact neverMisses_synthesizeWav b _ true

theorem neverMisses_record (kana : String) (options : SpeechOptions) :
    NeverMisses (record b kana options) := by
  refine .seq (neverMisses_readKana kana) fun phrases => ?_
  refine .seq (neverMisses_replaceProsody b phrases) fun placed => ?_
  exact .seq (neverMisses_synthesize b _ options.upspeak) fun _ => .pure trivial

/-! ## Operations on texts -/

/-- Only the analyzer can say that models are missing. -/
def FromAnalyzer (analyzer : TextAnalyzer) (text : String) (fault : Fault) : Prop :=
  fault.MissesModels → analyzer text = .error fault

theorem fromAnalyzer_of_neverMisses {α : Type} {x : Op S α} (h : NeverMisses x)
    (analyzer : TextAnalyzer) (text : String) :
    Yields x (fun _ => True) (FromAnalyzer analyzer text) :=
  h.monoFault fun _ clear misses => absurd misses clear

theorem yields_accentPhrases (analyzer : TextAnalyzer) (text : String) :
    Yields (accentPhrases b analyzer text speaker) (fun _ => True)
      (FromAnalyzer analyzer text) := by
  refine .seq (fromAnalyzer_of_neverMisses neverMisses_requireVoices _ _) fun _ => ?_
  split
  · exact .pure trivial
  · refine .seq (yields_perform (.ofFault fun {_ _ fault} run _ => ?_)) fun utterance => ?_
    · exact congrArg Prod.fst run
    · simp only []
      split
      · exact .pure trivial
      · exact fromAnalyzer_of_neverMisses (neverMisses_replaceProsody b _) _ _

theorem yields_textToWav (analyzer : TextAnalyzer) (text : String) :
    Yields (textToWav b analyzer text speaker) (fun _ => True) (FromAnalyzer analyzer text) := by
  refine .seq (yields_accentPhrases b analyzer text) fun phrases => ?_
  exact fromAnalyzer_of_neverMisses (neverMisses_synthesizeWav b _ true) _ _

/-! ## Forward calls -/

/-- A forward call misses the models of no other speaker than its own. -/
theorem yields_forward {α : Type} {run : Sessions S → Calls S α}
    (work : ∀ sessions, Yields (run sessions) (fun _ => True) Fault.IsOfStages) :
    Yields (do
      let v ← requireVoices
      let sessions ← liftM (v.catalogue.sessions speaker)
      perform (run sessions)) (fun _ => True)
      fun fault => fault.MissesModels → fault = .modelNotLoaded speaker := by
  refine .seq ?_ fun v => .seq (.liftFault ?_) fun sessions => ?_
  · exact neverMisses_requireVoices.monoFault fun _ clear misses => absurd misses clear
  · refine (v.catalogue.failsOnly_sessions speaker).mono fun fault kind misses => ?_
    rcases kind with rfl | same
    · exact misses.elim
    · exact same
  · refine (yields_perform (work sessions)).monoFault fun fault isOfStages misses => ?_
    exact absurd misses isOfStages.not_missesModels

/-! ## Every request -/

/-- The request may be answered that the models of the speaker are not loaded: it is a forward call
for this speaker, or its analyzer says so. -/
def Request.MayMiss (speaker : Int64) : Request → Prop
  | .variance _ _ asked | .decode _ _ _ asked => asked = speaker
  | .accentPhrases analyzer text _ | .textSound analyzer text _ =>
    analyzer text = .error (.modelNotLoaded speaker)
  | _ => False

/-- A reply is only put around what the operation gives. -/
theorem yields_reply {α : Type} {x : Op S α} {bad : Fault → Prop} {may : Prop}
    (h : Yields x (fun _ => True) bad) (f : α → Reply)
    (only : bad (.modelNotLoaded speaker) → may) :
    Yields (do pure (f (← x))) (fun _ => True)
      fun fault => fault = .modelNotLoaded speaker → may := by
  refine .seq (h.monoFault ?_) fun _ => .pure trivial
  rintro _ isBad rfl
  exact only isBad

theorem yields_request (request : Request) (speaker : Int64) :
    Yields (request.op b) (fun _ => True)
      fun fault => fault = .modelNotLoaded speaker → request.MayMiss speaker := by
  cases request with
  | load asked => exact yields_reply (neverMisses_loadModel b) _ (absurd trivial)
  | isLoaded asked => exact .seq (.ofFault fun run => nomatch run) fun _ => .pure trivial
  | speakers => exact yields_reply neverMisses_speakersJson _ (absurd trivial)
  | variance phonemes accents asked =>
    refine yields_reply (yields_forward fun sessions => ?_) _ fun own => ?_
    · exact yields_variance_isOfStages b sessions phonemes accents asked
    · cases own trivial
      rfl
  | decode phonemes pitches durations asked =>
    refine yields_reply (yields_forward fun sessions => ?_) _ fun own => ?_
    · exact yields_decodeForward_isOfStages b sessions phonemes pitches durations asked
    · cases own trivial
      rfl
  | accentPhrases analyzer text asked =>
    exact yields_reply (yields_accentPhrases b analyzer text) _ fun handedIn => handedIn trivial
  | phraseProsody phrases asked =>
    exact yields_reply (neverMisses_replaceProsody b phrases) _ (absurd trivial)
  | phraseLengths phrases asked =>
    exact yields_reply (neverMisses_replaceLengths b phrases) _ (absurd trivial)
  | phrasePitches phrases asked =>
    exact yields_reply (neverMisses_replacePitches b phrases) _ (absurd trivial)
  | speech query asked upspeak =>
    exact yields_reply (neverMisses_synthesize b query upspeak) _ (absurd trivial)
  | sound query asked upspeak =>
    exact yields_reply (neverMisses_synthesizeWav b query upspeak) _ (absurd trivial)
  | kanaSound kana asked => exact yields_reply (neverMisses_kanaToWav b kana) _ (absurd trivial)
  | textSound analyzer text asked =>
    exact yields_reply (yields_textToWav b analyzer text) _ fun handedIn => handedIn trivial
  | recording kana options =>
    exact yields_reply (neverMisses_record b kana options) _ (absurd trivial)
  | recordingFile tree path kana options =>
    exact yields_reply (neverMisses_record b kana options) _ (absurd trivial)

/-! ## Every step -/

/-- A start fails over the files, the device or a model that is refused. -/
theorem neverMisses_start (tree : FileTree) (root : Path) (options : CatalogueOptions) :
    NeverMisses (start b tree root options) := by
  refine .ofFault fun {e _ fault} run => ?_
  rw [outcome_start_eq] at run
  cases isRead : (Voices.read b.devices tree root options : Except Fault (Voices S)) with
  | error cause =>
    rw [isRead] at run
    cases run
    obtain ⟨-, check, -, -, -, broken⟩ := readVoices_eq_error_iff.1 isRead
    exact not_missesModels_of_isBroken broken
  | ok v =>
    rw [isRead] at run
    simp only [] at run
    split at run
    case isFalse => cases run
    case isTrue =>
      have fresh := Voices.isFresh_of_read isRead
      obtain ⟨events, libraries, inOrder, load⟩ :=
        outcome_mapM_load_of_unloaded b v.catalogue.plan
          (VoiceLibrary.unloaded_of_isReadFrom fresh.libraries) e.history
      rw [load] at run
      cases libraries with
      | ok loaded => cases run
      | error cause =>
        cases run
        obtain ⟨path, reason, rfl⟩ := inOrder.isModelFormat rfl
        exact id

/-- The step may be answered that the models of the speaker are not loaded. -/
def Step.MayMiss (speaker : Int64) : Step → Prop
  | .ask request => request.MayMiss speaker
  | _ => False

theorem mayMiss_of_answer {step : Step} {e : Engine S} {speaker : Int64}
    (h : (outcome (step.op b) e).1 = .error (.modelNotLoaded speaker)) :
    step.MayMiss speaker := by
  cases step with
  | start tree root options =>
    have run : outcome (Step.op b (.start tree root options)) e =
        (.error (.modelNotLoaded speaker), _) := Prod.ext h rfl
    rcases outcome_bind_eq_error_iff.1 run with failed | ⟨_, _, _, last⟩
    · exact absurd trivial ((neverMisses_start b tree root options).fault failed)
    · cases last
  | stop => cases h
  | ask request => exact (yields_request b request speaker).fault (Prod.ext h rfl) rfl

/-- In the course of any steps nothing else is answered so. -/
theorem mayMiss_of_mem_transcript {steps : List Step} {e : Engine S} {speaker : Int64}
    {step : Step} (h : (step, .error (.modelNotLoaded speaker)) ∈ transcript b steps e) :
    step.MayMiss speaker := by
  induction steps generalizing e with
  | nil => cases h
  | cons first rest ih =>
    rcases List.mem_cons.1 h with same | later
    · rw [Prod.mk.injEq] at same
      obtain ⟨rfl, answer⟩ := same
      exact mayMiss_of_answer b answer.symm
    · exact ih later

end Engine

end KanaVoice
