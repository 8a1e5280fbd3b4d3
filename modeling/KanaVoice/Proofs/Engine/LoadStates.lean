import KanaVoice.Proofs.Engine.KanaSpeech
import KanaVoice.Proofs.Engine.Request
set_option autoImplicit false

/-!
# Load states along a run

From its start on, what an engine answers about its models is what its history says: a speaker's
models are loaded exactly when the three models of the speaker's library have been taken one after
another, and exactly then the forward calls do not miss them.  What is loaded stays loaded, and only
a request that loads for a speaker of a library can change that library.
-/

namespace KanaVoice

variable {S : Type}

/-! ## Sessions of a speaker -/

namespace Catalogue

variable {c : Catalogue S} {speaker : Int64}

theorem isLoaded_eq_true_iff :
    c.isLoaded speaker = true ↔ ∃ l, c.library? speaker = some l ∧ l.isLoaded = true := by
  unfold isLoaded
  cases c.library? speaker <;> simp

/-- A speaker whose models are loaded is one with sessions. -/
theorem isLoaded_iff_sessions :
    c.isLoaded speaker = true ↔ ∃ sessions, c.sessions speaker = .ok sessions := by
  rw [isLoaded_eq_true_iff]
  constructor
  · rintro ⟨l, found, loaded⟩
    obtain ⟨sessions, state⟩ := VoiceLibrary.isLoaded_eq_true_iff.1 loaded
    exact ⟨sessions, sessions_eq_ok_iff.2 ⟨l, found, state⟩⟩
  · rintro ⟨sessions, found⟩
    obtain ⟨l, found, state⟩ := sessions_eq_ok_iff.1 found
    exact ⟨l, found, VoiceLibrary.isLoaded_eq_true_iff.2 ⟨sessions, state⟩⟩

theorem isAbsence_of_sessions {fault : Fault} (h : c.sessions speaker = .error fault) :
    fault.IsAbsence := by
  rcases (c.failsOnly_sessions speaker).fault h with rfl | rfl <;> exact trivial

/-- Speakers whose libraries have one name have one library. -/
theorem library?_eq_of_libraryName? {other : Int64} (distinct : c.Distinct)
    (same : c.libraryName? speaker = c.libraryName? other) :
    c.library? speaker = c.library? other := by
  unfold libraryName? at same
  cases here : c.library? speaker with
  | none =>
    rw [here] at same
    exact (Option.map_eq_none_iff.1 same.symm).symm
  | some l =>
    rw [here] at same
    obtain ⟨l', there, name⟩ := Option.map_eq_some_iff.1 same.symm
    have mem := mem_of_library? here
    have mem' := mem_of_library? there
    rw [there, List.inj_on_of_nodup_map distinct mem' mem name]

/-- In a catalogue that the events account for, a speaker's models are loaded exactly when they say
so. -/
theorem Recorded.isLoaded_speaker_iff {events : List (Event S)} (h : c.Recorded events)
    (speaker : Int64) :
    c.isLoaded speaker = true ↔
      ∃ l, c.library? speaker = some l ∧ FullyLoaded l.name events := by
  rw [isLoaded_eq_true_iff]
  constructor
  · rintro ⟨l, found, loaded⟩
    exact ⟨l, found, (h.isLoaded_iff (mem_of_library? found)).1 loaded⟩
  · rintro ⟨l, found, full⟩
    exact ⟨l, found, (h.isLoaded_iff (mem_of_library? found)).2 full⟩

end Catalogue

namespace Engine

variable (b : Backend S) {v : Voices S} {e : Engine S}

theorem isLoaded_of_started (started : e.voices = some v) (speaker : Int64) :
    e.isLoaded speaker = v.catalogue.isLoaded speaker := by
  rw [isLoaded, started]

/-- A forward call answers for a loaded speaker, and otherwise misses the models. -/
theorem isLoaded_iff_forward {α : Type} {run : Sessions S → Calls S α} {speaker : Int64}
    (started : e.voices = some v)
    (work : ∀ sessions, Yields (run sessions) (fun _ => True) Fault.IsOfStages) :
    e.isLoaded speaker = true ↔
      ∀ fault, (outcome (do
        let v ← requireVoices
        let sessions ← liftM (v.catalogue.sessions speaker)
        perform (run sessions)) e).1 = .error fault → ¬ fault.IsAbsence := by
  rw [isLoaded_of_started started, Catalogue.isLoaded_iff_sessions, outcome_bind,
    outcome_requireVoices_of_started started]
  simp only []
  rw [outcome_bind, outcome_liftM]
  cases found : v.catalogue.sessions speaker with
  | ok sessions =>
    simp only [Except.ok.injEq, exists_eq', true_iff]
    intro fault failed
    exact ((yields_perform (work sessions)).fault (Prod.ext failed rfl)).not_isAbsence
  | error fault =>
    constructor
    · rintro ⟨_, ⟨⟩⟩
    · intro never
      exact absurd (Catalogue.isAbsence_of_sessions found) (never fault rfl)

/-! ## The start -/

/-- A started engine has a catalogue that its calls since then account for, planned as the options
want it. -/
theorem recorded_of_start {tree : FileTree} {root : Path} {options : CatalogueOptions}
    {e e' : Engine S} (h : outcome (start b tree root options) e = (.ok (), e')) :
    ∃ v events, e'.voices = some v ∧ e'.history = e.history ++ events ∧
      v.catalogue.Recorded events ∧ Catalogue.Follows b.devices options v.catalogue.plan := by
  rw [outcome_start] at h
  split at h
  case h_1 => cases h
  case h_2 symbols _ =>
    cases opened : outcome (Catalogue.openAt b tree root options) e.history with
    | mk answer history =>
      rw [opened] at h
      cases answer with
      | error fault => cases h
      | ok catalogue =>
        cases h
        obtain ⟨events, grown, recorded, follows⟩ := Catalogue.recorded_of_openAt b opened
        exact ⟨{ catalogue, symbols }, events, rfl, grown, recorded, follows⟩

/-- Whatever is requested afterwards, the calls since the start account for the catalogue. -/
theorem recorded_of_serve {events : List (Event S)} (started : e.voices = some v)
    (recorded : v.catalogue.Recorded events) (requests : List Request) :
    ∃ v' more, (serve b requests e).voices = some v' ∧
      (serve b requests e).history = e.history ++ more ∧
      v.catalogue.Advance (fun speaker => ∃ request ∈ requests, request.loadsFor? = some speaker)
        more v'.catalogue ∧
      v'.catalogue.Recorded (events ++ more) := by
  obtain ⟨more, v', history, started', -, advance⟩ :=
    (advance_serve b requests e).started v started recorded.distinct
  exact ⟨v', more, started', history, advance, recorded.advance advance⟩

/-! ## Between two moments -/

/-- What the engine answers about its models is what the events since its start say. -/
structure Accounted (b : Backend S) (e : Engine S) (v : Voices S) (events : List (Event S)) :
    Prop where
  voices : e.voices = some v
  distinct : v.catalogue.Distinct
  /-- A speaker's models are loaded exactly when all three have been taken in one attempt. -/
  loaded : ∀ speaker, e.isLoaded speaker = true ↔
    ∃ l, v.catalogue.library? speaker = some l ∧ FullyLoaded l.name events
  shared : ∀ speaker other,
    v.catalogue.libraryName? speaker = v.catalogue.libraryName? other →
      e.isLoaded speaker = e.isLoaded other
  /-- Exactly then a forward call does not miss them, whatever it is given. -/
  variance : ∀ speaker phonemes accents, e.isLoaded speaker = true ↔
    ∀ fault, (outcome (varianceForward b phonemes accents speaker) e).1 = .error fault →
      ¬ fault.IsAbsence
  decode : ∀ speaker phonemes pitches durations, e.isLoaded speaker = true ↔
    ∀ fault, (outcome (decodeForward b phonemes pitches durations speaker) e).1 = .error fault →
      ¬ fault.IsAbsence

/-- What cannot have become of the voices between two moments, when there were events before the
first one and other events between the two. -/
structure Kept (asked : Int64 → Prop) (before after : List (Event S)) (v v' : Voices S) :
    Prop where
  names : v'.catalogue.libraries.map VoiceLibrary.name =
    v.catalogue.libraries.map VoiceLibrary.name
  speakers : ∀ speaker, v'.catalogue.libraryName? speaker = v.catalogue.libraryName? speaker
  /-- A loaded library stays as it is. -/
  loaded : ∀ l ∈ v.catalogue.libraries, l.isLoaded = true → l ∈ v'.catalogue.libraries
  /-- A library none of whose speakers was asked for stays as it is. -/
  unasked : ∀ l ∈ v.catalogue.libraries,
    (∀ speaker, asked speaker → v.catalogue.libraryName? speaker ≠ some l.name) →
      l ∈ v'.catalogue.libraries ∧ ∀ event ∈ after, ¬ event.IsLoadOf l.name
  /-- After one full attempt there is no other. -/
  settled : ∀ l ∈ v.catalogue.libraries, FullyLoaded l.name before →
    ∀ event ∈ after, ¬ event.IsLoadOf l.name

theorem accounted_of_recorded {events : List (Event S)} (started : e.voices = some v)
    (recorded : v.catalogue.Recorded events) : Accounted b e v events where
  voices := started
  distinct := recorded.distinct
  loaded speaker := by
    rw [isLoaded_of_started started]
    exact recorded.isLoaded_speaker_iff speaker
  shared speaker other same := by
    rw [isLoaded_of_started started, isLoaded_of_started started]
    unfold Catalogue.isLoaded
    rw [Catalogue.library?_eq_of_libraryName? recorded.distinct same]
  variance speaker phonemes accents :=
    isLoaded_iff_forward started fun sessions =>
      yields_variance_isOfStages b sessions phonemes accents speaker
  decode speaker phonemes pitches durations :=
    isLoaded_iff_forward started fun sessions =>
      yields_decodeForward_isOfStages b sessions phonemes pitches durations speaker

theorem kept_of_advance {asked : Int64 → Prop} {before after : List (Event S)} {v v' : Voices S}
    (recorded : v.catalogue.Recorded before)
    (h : v.catalogue.Advance asked after v'.catalogue) : Kept asked before after v v' := by
  obtain ⟨f, libraries, each⟩ := h.libraries
  -- A library that stands still is found where it was.
  have stays : ∀ l ∈ v.catalogue.libraries, f l = l → l ∈ v'.catalogue.libraries := by
    intro l mem same
    rw [libraries]
    exact List.mem_map.2 ⟨l, mem, same⟩
  constructor
  case names => exact h.names
  case speakers => exact h.libraryName?
  case loaded =>
    intro l mem loaded
    exact stays l mem ((each l mem).still (.inl loaded)).1
  case unasked =>
    intro l mem unasked
    obtain ⟨same, none⟩ := (each l mem).still <| by
      right
      rintro ⟨speaker, isAsked, found⟩
      exact unasked speaker isAsked found
    exact ⟨stays l mem same, none⟩
  case settled =>
    intro l mem full
    have loaded := (recorded.isLoaded_iff mem).2 full
    exact ((each l mem).still (.inl loaded)).2

/-- Between the start of an engine and any two later moments, whatever is requested and whatever
fails, the load states are those that the calls account for, and what is loaded is kept. -/
theorem accounted_and_kept_of_start {tree : FileTree} {root : Path} {options : CatalogueOptions}
    {e₀ e₁ : Engine S} (opened : outcome (start b tree root options) e₀ = (.ok (), e₁))
    (earlier later : List Request) :
    ∃ v v' before after,
      (serve b earlier e₁).history = e₀.history ++ before ∧
      (serve b later (serve b earlier e₁)).history = e₀.history ++ before ++ after ∧
      Accounted b (serve b earlier e₁) v before ∧
      Accounted b (serve b later (serve b earlier e₁)) v' (before ++ after) ∧
      Kept (fun speaker => ∃ request ∈ later, request.loadsFor? = some speaker) before after
        v v' := by
  obtain ⟨v₁, opening, started₁, history₁, recorded₁, -⟩ := recorded_of_start b opened
  obtain ⟨v, during, started, history, -, recorded⟩ :=
    recorded_of_serve b started₁ recorded₁ earlier
  obtain ⟨v', after, started', history', advance, recorded'⟩ :=
    recorded_of_serve b started recorded later
  refine ⟨v, v', opening ++ during, after, ?_, ?_, ?_, ?_, ?_⟩
  · rw [history, history₁, List.append_assoc]
  · rw [history', history, history₁, List.append_assoc e₀.history]
  · exact accounted_of_recorded b started recorded
  · exact accounted_of_recorded b started' recorded'
  · exact kept_of_advance recorded advance

/-- Files of one library. -/
def questionTree : FileTree :=
  let folders := FileTree.empty.put ["voices"] .folder |>.put ["voices", "first"] .folder
  let lists := folders.put ["voices", "libraries.json"] (.file "\x7b\"first\":true\x7d".toUTF8)
    |>.put ["voices", "first", "metas.json"]
      (.file "[[\"speaker\",[[\"style\",7]],\"\",\"\"]]".toUTF8)
  lists.put ["voices", "first", "variance_model.onnx"] (.file .empty)
    |>.put ["voices", "first", "embedder_model.onnx"] (.file .empty)
    |>.put ["voices", "first", "decoder_model.onnx"] (.file .empty)

theorem outcome_start_question : ∃ e₁,
    outcome (start questionBackend questionTree ⟨"voices"⟩ {}) {} = (.ok (), e₁) ∧
      e₁.isLoaded 7 = false ∧ (serve questionBackend [.load 7] e₁).isLoaded 7 = true := by
  obtain ⟨⟨⟩, e₁, answer⟩ := exists_answer
    (x := outcome (start questionBackend questionTree ⟨"voices"⟩ {}) {})
    (p := fun _ e => e.isLoaded 7 = false ∧ (serve questionBackend [.load 7] e).isLoaded 7 = true)
    (by decide +kernel)
  exact ⟨e₁, answer⟩

theorem accounted_and_kept_question : ∃ e₁,
    outcome (start questionBackend questionTree ⟨"voices"⟩ {}) {} = (.ok (), e₁) ∧
      e₁.isLoaded 7 = false ∧ (serve questionBackend [.load 7] e₁).isLoaded 7 = true ∧
      ∃ v v' before after,
        (serve questionBackend [.load 7] e₁).history = before ∧
        (serve questionBackend [.load 7] (serve questionBackend [.load 7] e₁)).history =
          before ++ after ∧
        Accounted questionBackend (serve questionBackend [.load 7] e₁) v before ∧
        Kept (fun speaker => ∃ request ∈ [Request.load 7], request.loadsFor? = some speaker)
          before after v v' := by
  obtain ⟨e₁, opened, unloaded, loaded⟩ := outcome_start_question
  obtain ⟨v, v', before, after, history, history', accounted, -, kept⟩ :=
    accounted_and_kept_of_start questionBackend opened [.load 7] [.load 7]
  exact ⟨e₁, opened, unloaded, loaded, v, v', before, after, history, history', accounted, kept⟩

end Engine

end KanaVoice
