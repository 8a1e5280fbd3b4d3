import KanaVoice.Proofs.Library.Attempt
import KanaVoice.Proofs.Library.Reading
set_option autoImplicit false

/-!
# Load states and the history

The load state of a library is what the history says: a library is loaded exactly when an attempt
for it has got all three sessions.  `Advance` says what may become of a library, and of a catalogue,
while the history grows; it composes along a run, and `Recorded` follows it.
-/

namespace KanaVoice

variable {S : Type}

/-! ## One library -/

namespace VoiceLibrary

/-- What may become of a library while events happen.  `asked` says whether its speakers are asked
for. -/
structure Advance (asked : Prop) (events : List (Event S)) (l l' : VoiceLibrary S) : Prop where
  name : l'.name = l.name
  speakers : l'.speakers = l.speakers
  /-- A library that is loaded or not asked for is left alone. -/
  still : l.isLoaded = true ∨ ¬ asked → l' = l ∧ ∀ event ∈ events, ¬ event.IsLoadOf l.name
  /-- It becomes loaded by a full attempt. -/
  gained : l.isLoaded = false → l'.isLoaded = true → FullyLoaded l.name events
  /-- As long as it is not loaded, it is as it was and no attempt was full. -/
  missed : l'.isLoaded = false → l' = l ∧ ∀ event ∈ events, ¬ event.IsDecoderOf l.name

namespace Advance

variable {asked : Prop} {events more : List (Event S)} {l l' l'' : VoiceLibrary S}

theorem refl_of_no_load (h : ∀ event ∈ events, ¬ event.IsLoadOf l.name) :
    Advance asked events l l where
  name := rfl
  speakers := rfl
  still _ := ⟨rfl, h⟩
  gained unloaded loaded := by simp [unloaded] at loaded
  missed _ := ⟨rfl, fun event mem => not_isDecoderOf (h event mem)⟩

theorem trans (first : Advance asked events l l') (second : Advance asked more l' l'') :
    Advance asked (events ++ more) l l'' where
  name := second.name.trans first.name
  speakers := second.speakers.trans first.speakers
  still quiet := by
    obtain ⟨rfl, none⟩ := first.still quiet
    obtain ⟨rfl, noneLater⟩ := second.still quiet
    exact ⟨rfl, List.forall_mem_append.2 ⟨none, noneLater⟩⟩
  gained unloaded loaded := by
    cases between : l'.isLoaded with
    | true => exact (first.gained unloaded between).append_right
    | false =>
      have later := second.gained between loaded
      rw [first.name] at later
      exact later.append_left
  missed unloaded := by
    obtain ⟨rfl, noneLater⟩ := second.missed unloaded
    obtain ⟨rfl, none⟩ := first.missed unloaded
    exact ⟨rfl, List.forall_mem_append.2 ⟨none, noneLater⟩⟩

theorem mono {asked' : Prop} (h : Advance asked events l l') (weaker : asked → asked') :
    Advance asked' events l l' where
  name := h.name
  speakers := h.speakers
  still quiet := h.still (quiet.imp_right fun notAsked isAsked => notAsked (weaker isAsked))
  gained := h.gained
  missed := h.missed

end Advance

/-- An attempt advances its own library. -/
theorem advance_of_attempt {plan : LoadPlan} {l : VoiceLibrary S} {models : ModelFiles}
    {events : List (Event S)} {sessions : Sessions S} (state : l.state = .unloaded models)
    (h : Attempt plan l models events (.ok sessions)) :
    Advance True events l (l.withSessions sessions) where
  name := rfl
  speakers := rfl
  still quiet := by
    have unloaded := isLoaded_eq_false_iff.2 ⟨models, state⟩
    simp [unloaded] at quiet
  gained _ _ := h.fullyLoaded
  missed unloaded := by cases unloaded

theorem advance_of_refused {plan : LoadPlan} {l : VoiceLibrary S} {models : ModelFiles}
    {events : List (Event S)} {fault : Fault} (state : l.state = .unloaded models)
    (h : Attempt plan l models events (.error fault)) : Advance True events l l where
  name := rfl
  speakers := rfl
  still quiet := by
    have unloaded := isLoaded_eq_false_iff.2 ⟨models, state⟩
    simp [unloaded] at quiet
  gained unloaded loaded := by simp [unloaded] at loaded
  missed _ := ⟨rfl, h.not_isDecoderOf_of_error l.name⟩

/-- Loading advances the library, also when it fails, and makes no call for another one. -/
theorem advance_of_load (b : Backend S) (plan : LoadPlan) (l : VoiceLibrary S)
    (history : History S) :
    ∃ events, (outcome (l.load b plan) history).2 = history ++ events ∧
      (∀ event ∈ events, ∀ name, event.IsLoadOf name → name = l.name) ∧
      match (outcome (l.load b plan) history).1 with
      | .ok l' => Advance True events l l' ∧ l'.isLoaded = true
      | .error _ => Advance True events l l := by
  cases state : l.state with
  | loaded sessions =>
    rw [outcome_load_of_loaded b state]
    have loaded := isLoaded_eq_true_iff.2 ⟨sessions, state⟩
    exact ⟨[], (List.append_nil _).symm, nofun, .refl_of_no_load nofun, loaded⟩
  | unloaded models =>
    obtain ⟨events, result, attempt, run⟩ := outcome_load_of_unloaded b state plan history
    rw [run]
    refine ⟨events, rfl, attempt.eq_name_of_isLoadOf, ?_⟩
    cases result with
    | ok sessions => exact ⟨advance_of_attempt state attempt, rfl⟩
    | error fault => exact advance_of_refused state attempt

end VoiceLibrary

/-! ## A catalogue -/

namespace Catalogue

/-- The name of the library that a speaker belongs to. -/
def libraryName? (c : Catalogue S) (speaker : Int64) : Option String :=
  (c.library? speaker).map VoiceLibrary.name

/-- What may become of a catalogue while events happen and some speakers are asked for: it keeps its
plan, and each of its libraries advances. -/
structure Advance (asked : Int64 → Prop) (events : List (Event S)) (c c' : Catalogue S) :
    Prop where
  plan : c'.plan = c.plan
  libraries : ∃ f : VoiceLibrary S → VoiceLibrary S, c'.libraries = c.libraries.map f ∧
    ∀ l ∈ c.libraries,
      l.Advance (∃ speaker, asked speaker ∧ c.libraryName? speaker = some l.name) events (f l)

theorem mem_of_library? {c : Catalogue S} {speaker : Int64} {l : VoiceLibrary S}
    (h : c.library? speaker = some l) : l ∈ c.libraries := by
  rw [library?, List.findRev?_eq_find?_reverse] at h
  exact List.mem_reverse.1 (List.mem_of_find?_eq_some h)

/-- Changing libraries without changing their speakers changes the library of a speaker alike. -/
theorem library?_of_map {c c' : Catalogue S} {f : VoiceLibrary S → VoiceLibrary S}
    (libraries : c'.libraries = c.libraries.map f)
    (speakers : ∀ l ∈ c.libraries, (f l).speakers = l.speakers) (speaker : Int64) :
    c'.library? speaker = (c.library? speaker).map f := by
  rw [library?, library?, List.findRev?_eq_find?_reverse, List.findRev?_eq_find?_reverse,
    libraries, ← List.map_reverse, List.find?_map]
  congr 1
  apply List.find?_congr
  intro l mem
  have same := speakers l (List.mem_reverse.1 mem)
  simp only [Function.comp, VoiceLibrary.serves, same]

namespace Advance

variable {asked : Int64 → Prop} {events more : List (Event S)} {c c' c'' : Catalogue S}

theorem refl_of_no_load (h : ∀ event ∈ events, ∀ name, ¬ event.IsLoadOf name) :
    Advance asked events c c where
  plan := rfl
  libraries := by
    refine ⟨id, (List.map_id _).symm, ?_⟩
    intro l _
    exact .refl_of_no_load fun event mem => h event mem l.name

theorem names (h : Advance asked events c c') :
    c'.libraries.map VoiceLibrary.name = c.libraries.map VoiceLibrary.name := by
  obtain ⟨f, libraries, each⟩ := h.libraries
  rw [libraries, List.map_map]
  exact List.map_congr_left fun l mem => (each l mem).name

theorem distinct (h : Advance asked events c c') (distinct : c.Distinct) : c'.Distinct := by
  rw [Distinct, h.names]
  exact distinct

/-- Speakers keep their libraries. -/
theorem libraryName? (h : Advance asked events c c') (speaker : Int64) :
    c'.libraryName? speaker = c.libraryName? speaker := by
  obtain ⟨f, libraries, each⟩ := h.libraries
  rw [Catalogue.libraryName?, library?_of_map libraries fun l mem => (each l mem).speakers]
  rw [Catalogue.libraryName?, Option.map_map]
  cases found : c.library? speaker with
  | none => rfl
  | some l => exact congrArg some (each l (mem_of_library? found)).name

theorem trans (first : Advance asked events c c') (second : Advance asked more c' c'') :
    Advance asked (events ++ more) c c'' where
  plan := second.plan.trans first.plan
  libraries := by
    obtain ⟨f, libraries, each⟩ := first.libraries
    obtain ⟨g, libraries', each'⟩ := second.libraries
    refine ⟨g ∘ f, by rw [libraries', libraries, List.map_map], ?_⟩
    intro l mem
    have here := each l mem
    have later := each' (f l) (by rw [libraries]; exact List.mem_map_of_mem mem)
    simp only [first.libraryName?, here.name] at later
    exact here.trans later

theorem mono {asked' : Int64 → Prop} (h : Advance asked events c c')
    (weaker : ∀ speaker, asked speaker → asked' speaker) : Advance asked' events c c' where
  plan := h.plan
  libraries := by
    obtain ⟨f, libraries, each⟩ := h.libraries
    refine ⟨f, libraries, ?_⟩
    intro l mem
    refine (each l mem).mono ?_
    rintro ⟨speaker, isAsked, found⟩
    exact ⟨speaker, weaker speaker isAsked, found⟩

end Advance

/-- Putting an advanced library in its place advances the catalogue. -/
theorem advance_replace {c : Catalogue S} {speaker : Int64} {l l' : VoiceLibrary S}
    {events : List (Event S)} (distinct : c.Distinct) (found : c.library? speaker = some l)
    (h : l.Advance True events l')
    (own : ∀ event ∈ events, ∀ name, event.IsLoadOf name → name = l.name) :
    c.Advance (· = speaker) events (c.replace l') where
  plan := rfl
  libraries := by
    refine ⟨_, rfl, ?_⟩
    intro other mem
    have mem' := mem_of_library? found
    by_cases same : other.name = l'.name
    · have isOther : other = l :=
        List.inj_on_of_nodup_map distinct mem mem' (same.trans h.name)
      subst isOther
      rw [if_pos same]
      refine h.mono fun _ => ?_
      exact ⟨speaker, rfl, by rw [Catalogue.libraryName?, found, Option.map_some]⟩
    · rw [if_neg same]
      refine .refl_of_no_load fun event inEvents load => ?_
      exact same ((own event inEvents _ load).trans h.name.symm)

theorem replace_of_mem {c : Catalogue S} {l : VoiceLibrary S} (distinct : c.Distinct)
    (mem : l ∈ c.libraries) : c.replace l = c := by
  unfold replace
  have same : (c.libraries.map fun other => if other.name = l.name then l else other) =
      c.libraries := by
    conv_rhs => rw [← List.map_id c.libraries]
    apply List.map_congr_left
    intro other isMem
    split
    case isTrue name => exact (List.inj_on_of_nodup_map distinct isMem mem name).symm
    case isFalse => rfl
  rw [same]

/-- Loading for a speaker advances the catalogue, also when it fails. -/
theorem advance_of_load (b : Backend S) {c : Catalogue S} (distinct : c.Distinct)
    (speaker : Int64) (history : History S) :
    ∃ events, (outcome (c.load b speaker) history).2 = history ++ events ∧
      match (outcome (c.load b speaker) history).1 with
      | .ok c' => c.Advance (· = speaker) events c'
      | .error _ => c.Advance (· = speaker) events c := by
  unfold load library
  rw [outcome_bind, outcome_liftM]
  cases found : c.library? speaker with
  | none => exact ⟨[], (List.append_nil _).symm, .refl_of_no_load nofun⟩
  | some l =>
    simp only []
    obtain ⟨events, grown, own, advance⟩ := VoiceLibrary.advance_of_load b c.plan l history
    rw [outcome_bind]
    cases run : outcome (l.load b c.plan) history with
    | mk answer history' =>
      rw [run] at grown advance
      refine ⟨events, ?_⟩
      cases answer with
      | ok l' => exact ⟨grown, advance_replace distinct found advance.1 own⟩
      | error fault =>
        refine ⟨grown, ?_⟩
        have same := advance_replace distinct found advance own
        rwa [replace_of_mem distinct (mem_of_library? found)] at same

/-! ## What the history records -/

/-- The load states of the libraries are those that the events account for. -/
structure Recorded (c : Catalogue S) (events : List (Event S)) : Prop where
  distinct : c.Distinct
  loaded : ∀ l ∈ c.libraries, l.isLoaded = true → FullyLoaded l.name events
  unloaded : ∀ l ∈ c.libraries, l.isLoaded = false → ∀ event ∈ events, ¬ event.IsDecoderOf l.name

namespace Recorded

variable {c c' : Catalogue S} {events more : List (Event S)}

theorem isLoaded_iff (h : c.Recorded events) {l : VoiceLibrary S} (mem : l ∈ c.libraries) :
    l.isLoaded = true ↔ FullyLoaded l.name events := by
  constructor
  · exact h.loaded l mem
  · intro full
    cases state : l.isLoaded with
    | true => rfl
    | false =>
      obtain ⟨event, inEvents, decoder⟩ := full.exists_isDecoderOf
      exact absurd decoder (h.unloaded l mem state event inEvents)

theorem advance {asked : Int64 → Prop} (h : c.Recorded events) (step : c.Advance asked more c') :
    c'.Recorded (events ++ more) where
  distinct := step.distinct h.distinct
  loaded := by
    obtain ⟨f, libraries, each⟩ := step.libraries
    rw [libraries]
    intro l' mem loaded
    obtain ⟨l, isMem, rfl⟩ := List.mem_map.1 mem
    have here := each l isMem
    rw [here.name]
    cases before : l.isLoaded with
    | true => exact (h.loaded l isMem before).append_right
    | false => exact (here.gained before loaded).append_left
  unloaded := by
    obtain ⟨f, libraries, each⟩ := step.libraries
    rw [libraries]
    intro l' mem unloaded
    obtain ⟨l, isMem, rfl⟩ := List.mem_map.1 mem
    have here := each l isMem
    obtain ⟨same, none⟩ := here.missed unloaded
    rw [same] at unloaded ⊢
    exact List.forall_mem_append.2 ⟨h.unloaded l isMem unloaded, none⟩

end Recorded

/-- Loading libraries one after another, each of them is loaded by a full attempt. -/
theorem fullyLoaded_of_mapM_load (b : Backend S) {plan : LoadPlan}
    {libraries loaded : List (VoiceLibrary S)} {history history' : History S}
    (unloaded : ∀ l ∈ libraries, l.isLoaded = false)
    (h : outcome (libraries.mapM (VoiceLibrary.load b plan)) history = (.ok loaded, history')) :
    ∃ events, history' = history ++ events ∧
      loaded.map VoiceLibrary.name = libraries.map VoiceLibrary.name ∧
      ∀ l ∈ loaded, l.isLoaded = true ∧ FullyLoaded l.name events := by
  induction libraries generalizing loaded history history' with
  | nil =>
    rw [List.mapM_nil, outcome_pure, Prod.mk.injEq, Except.ok.injEq] at h
    obtain ⟨rfl, rfl⟩ := h
    exact ⟨[], (List.append_nil _).symm, rfl, nofun⟩
  | cons l rest ih =>
    rw [List.mapM_cons] at h
    obtain ⟨l', _, first, more⟩ := outcome_bind_eq_ok_iff.1 h
    obtain ⟨rest', _, second, last⟩ := outcome_bind_eq_ok_iff.1 more
    rw [outcome_pure, Prod.mk.injEq, Except.ok.injEq] at last
    obtain ⟨rfl, rfl⟩ := last
    obtain ⟨events, grown, -, advance⟩ := VoiceLibrary.advance_of_load b plan l history
    rw [first] at grown advance
    obtain rfl : _ = history ++ events := grown
    obtain ⟨step, isLoaded⟩ := advance
    obtain ⟨later, rfl, names, each⟩ := ih (fun other mem => unloaded other (by simp [mem])) second
    refine ⟨events ++ later, List.append_assoc .., ?_, ?_⟩
    · rw [List.map_cons, List.map_cons, step.name, names]
    · intro other mem
      rcases List.mem_cons.1 mem with rfl | inRest
      · have full := step.gained (unloaded l (by simp)) isLoaded
        rw [← step.name] at full
        exact ⟨isLoaded, full.append_right⟩
      · obtain ⟨state, full⟩ := each other inRest
        exact ⟨state, full.append_left⟩

/-- A catalogue that is opened is recorded by the calls of opening it. -/
theorem recorded_of_openAt (b : Backend S) {tree : FileTree} {root : Path}
    {options : CatalogueOptions} {c : Catalogue S} {history history' : History S}
    (h : outcome (openAt b tree root options) history = (.ok c, history')) :
    ∃ events, history' = history ++ events ∧ c.Recorded events ∧
      Follows b.devices options c.plan := by
  unfold openAt at h
  obtain ⟨fresh, _, first, more⟩ := outcome_bind_eq_ok_iff.1 h
  obtain ⟨isRead, rfl⟩ := outcome_liftM_eq_ok_iff.1 first
  obtain ⟨distinct, unloaded, follows⟩ := of_read isRead
  split at more
  case isFalse lazily =>
    rw [outcome_pure, Prod.mk.injEq, Except.ok.injEq] at more
    obtain ⟨rfl, rfl⟩ := more
    refine ⟨[], (List.append_nil _).symm, ⟨distinct, ?_, fun _ _ _ => nofun⟩, follows⟩
    intro l mem loaded
    simp [unloaded l mem] at loaded
  case isTrue eager =>
    unfold loadAll at more
    obtain ⟨loaded, _, second, last⟩ := outcome_bind_eq_ok_iff.1 more
    rw [outcome_pure, Prod.mk.injEq, Except.ok.injEq] at last
    obtain ⟨rfl, rfl⟩ := last
    obtain ⟨events, rfl, names, each⟩ := fullyLoaded_of_mapM_load b unloaded second
    refine ⟨events, rfl, ⟨?_, fun l mem _ => (each l mem).2, ?_⟩, follows⟩
    · rw [Distinct, names]
      exact distinct
    · intro l mem notLoaded
      simp [(each l mem).1] at notLoaded

end Catalogue

end KanaVoice
