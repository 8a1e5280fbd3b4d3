import KanaVoice.Proofs.Library.Verdict
set_option autoImplicit false

/-!
# Alike catalogues

Two catalogues are alike if they have the same libraries with the same models, whichever of these
are loaded; they are strictly alike if the same ones are.  A load for a speaker ends alike on both.
Loading on one side only leaves them alike, since what is loaded plays the models that it is going
to load on the other side.
-/

namespace KanaVoice

variable {S : Type}

/-! ## Libraries -/

namespace VoiceLibrary

/-- Two libraries are the same up to their load states, and up to the sessions that play their
models. -/
structure Alike (b : Backend S) (conduct : Conduct) (strict : Bool) (plan : LoadPlan)
    (history history' : History S) (l l' : VoiceLibrary S) : Prop where
  name : l'.name = l.name
  folder : l'.folder = l.folder
  speakers : l'.speakers = l.speakers
  models : ∃ models, l.Holds b conduct plan history models ∧ l'.Holds b conduct plan history' models
  states : strict → l'.isLoaded = l.isLoaded

namespace Alike

variable {b : Backend S} {conduct : Conduct} {strict : Bool} {plan : LoadPlan}
  {history history' later later' : History S} {l l' l₁ l₁' : VoiceLibrary S}

theorem of_unloaded (b : Backend S) (conduct : Conduct) (strict : Bool) (plan : LoadPlan)
    (history history' : History S) (h : l.isLoaded = false) :
    l.Alike b conduct strict plan history history' l := by
  obtain ⟨models, state⟩ := isLoaded_eq_false_iff.1 h
  have holds : ∀ history, l.Holds b conduct plan history models := by
    intro history
    unfold Holds
    rw [state]
  exact ⟨rfl, rfl, rfl, ⟨models, holds history, holds history'⟩, fun _ => rfl⟩

theorem symm (h : l.Alike b conduct strict plan history history' l') :
    l'.Alike b conduct strict plan history' history l := by
  obtain ⟨models, holds, holds'⟩ := h.models
  exact ⟨h.name.symm, h.folder.symm, h.speakers.symm, ⟨models, holds', holds⟩,
    fun strict => (h.states strict).symm⟩

theorem mono (h : l.Alike b conduct strict plan history history' l')
    (since : Since history history' later later') :
    l.Alike b conduct strict plan later later' l' := by
  obtain ⟨models, holds, holds'⟩ := h.models
  exact ⟨h.name, h.folder, h.speakers, ⟨models, holds.mono since.1, holds'.mono since.2⟩, h.states⟩

theorem loosen (h : l.Alike b conduct strict plan history history' l') :
    l.Alike b conduct false plan history history' l' :=
  ⟨h.name, h.folder, h.speakers, h.models, nofun⟩

/-- The verdict on alike libraries is one. -/
theorem verdict (h : l.Alike b conduct strict plan history history' l') :
    l'.verdict conduct plan = l.verdict conduct plan := by
  obtain ⟨models, holds, holds'⟩ := h.models
  rw [holds.verdict, holds'.verdict, h.folder]

/-- Loading one of two libraries leaves them alike, up to their load states. -/
theorem gains_left (h : l.Alike b conduct strict plan history history' l')
    (left : l.Gains b conduct plan history later l₁) :
    l₁.Alike b conduct false plan later history' l' := by
  obtain ⟨models, holds, holds'⟩ := h.models
  exact ⟨h.name.trans left.name.symm, h.folder.trans left.folder.symm,
    h.speakers.trans left.speakers.symm, ⟨models, left.holds models holds, holds'⟩, nofun⟩

/-- Loading both leaves them alike. -/
theorem gains (h : l.Alike b conduct strict plan history history' l')
    (left : l.Gains b conduct plan history later l₁)
    (right : l'.Gains b conduct plan history' later' l₁') :
    l₁.Alike b conduct strict plan later later' l₁' := by
  obtain ⟨name, folder, speakers, models, -⟩ := ((h.gains_left left).symm.gains_left right).symm
  exact ⟨name, folder, speakers, models, fun _ => right.loaded.trans left.loaded.symm⟩

/-- The sessions of alike libraries answer alike. -/
theorem interchangeable {sessions sessions' : Sessions S}
    (h : l.Alike b conduct strict plan history history' l') (state : l.state = .loaded sessions)
    (state' : l'.state = .loaded sessions') :
    sessions.Interchangeable b history history' sessions' := by
  obtain ⟨models, holds, holds'⟩ := h.models
  unfold Holds at holds holds'
  rw [state] at holds
  rw [state'] at holds'
  intro stage
  exact (holds.1 stage).interchangeable (holds'.1 stage)

end Alike

end VoiceLibrary

/-! ## Catalogues -/

section

variable {α β γ : Type} {R : α → β → Prop} {list : List α} {list' : List β}

/-- What related entries have in common the lists have in common. -/
theorem map_eq_of_forall₂ {f : α → γ} {g : β → γ} (h : List.Forall₂ R list list')
    (same : ∀ a b, R a b → g b = f a) : list'.map g = list.map f := by
  induction h with
  | nil => rfl
  | cons head _ ih => rw [List.map_cons, List.map_cons, same _ _ head, ih]

/-- Lists that are related to one list are related to each other. -/
theorem forall₂_meet {P : α → γ → Prop} {Q : γ → β → Prop} {other : List γ}
    (h : List.Forall₂ R list list') (h' : List.Forall₂ P list other)
    (meet : ∀ a b c, R a b → P a c → Q c b) : List.Forall₂ Q other list' := by
  induction h generalizing other with
  | nil =>
    cases h'
    exact .nil
  | cons head _ ih =>
    cases h' with
    | cons head' tail => exact .cons (meet _ _ _ head head') (ih tail)

/-- In lists of related entries the first ones that are looked for are related. -/
theorem rel_find? {p : α → Bool} {q : β → Bool} (h : List.Forall₂ R list list')
    (same : ∀ a b, R a b → q b = p a) : Option.Rel R (list.find? p) (list'.find? q) := by
  induction h with
  | nil => exact .none
  | cons head _ ih =>
    rw [List.find?_cons, List.find?_cons, same _ _ head]
    split
    · exact .some head
    · exact ih

end

namespace Catalogue

variable {c c' : Catalogue S} {speaker : Int64} {l l' : VoiceLibrary S}

theorem isLoaded_of_library? (found : c.library? speaker = some l) :
    c.isLoaded speaker = l.isLoaded := by
  rw [isLoaded, found]

theorem sessions_of_unloaded (found : c.library? speaker = some l) (unloaded : l.isLoaded = false) :
    c.sessions speaker = .error (.modelNotLoaded speaker) := by
  obtain ⟨models, state⟩ := VoiceLibrary.isLoaded_eq_false_iff.1 unloaded
  unfold sessions
  rw [library_eq_ok_iff.2 found, except_ok_bind, state]

theorem names_replace (c : Catalogue S) (l : VoiceLibrary S) :
    (c.replace l).libraries.map VoiceLibrary.name = c.libraries.map VoiceLibrary.name := by
  rw [replace, List.map_map]
  refine List.map_congr_left fun other _ => ?_
  simp only [Function.comp]
  split
  case isTrue same => exact same.symm
  case isFalse => rfl

/-- Where libraries of the same speakers are related, those of a speaker are. -/
theorem rel_library? {R : VoiceLibrary S → VoiceLibrary S → Prop}
    (h : List.Forall₂ R c.libraries c'.libraries)
    (speakers : ∀ l l', R l l' → l'.speakers = l.speakers) (speaker : Int64) :
    Option.Rel R (c.library? speaker) (c'.library? speaker) := by
  rw [library?, library?, List.findRev?_eq_find?_reverse, List.findRev?_eq_find?_reverse]
  refine rel_find? (List.forall₂_reverse_iff.2 h) fun l l' related => ?_
  rw [VoiceLibrary.serves, VoiceLibrary.serves, speakers l l' related]

/-- Two catalogues have alike libraries, one for one. -/
structure Alike (b : Backend S) (conduct : Conduct) (strict : Bool) (history history' : History S)
    (c c' : Catalogue S) : Prop where
  plan : c'.plan = c.plan
  distinct : c.Distinct
  libraries : List.Forall₂ (VoiceLibrary.Alike b conduct strict c.plan history history')
    c.libraries c'.libraries

namespace Alike

variable {b : Backend S} {conduct : Conduct} {strict : Bool}
  {history history' later later' : History S}

theorem of_unloaded (b : Backend S) (conduct : Conduct) (strict : Bool)
    (history history' : History S) (distinct : c.Distinct)
    (unloaded : ∀ l ∈ c.libraries, l.isLoaded = false) :
    c.Alike b conduct strict history history' c := by
  refine ⟨rfl, distinct, List.forall₂_same.2 fun l mem => ?_⟩
  exact .of_unloaded b conduct strict c.plan history history' (unloaded l mem)

theorem names (h : c.Alike b conduct strict history history' c') :
    c'.libraries.map VoiceLibrary.name = c.libraries.map VoiceLibrary.name :=
  map_eq_of_forall₂ h.libraries fun _ _ alike => alike.name

theorem distinct_of_gains {later : History S} {loaded : List (VoiceLibrary S)}
    (h : c.Alike b conduct strict history history' c')
    (each : List.Forall₂ (VoiceLibrary.Gains b conduct c.plan history later) c.libraries loaded) :
    Distinct { c with libraries := loaded } := by
  show (loaded.map VoiceLibrary.name).Nodup
  rw [map_eq_of_forall₂ each fun _ _ gains => gains.name]
  exact h.distinct

theorem symm (h : c.Alike b conduct strict history history' c') :
    c'.Alike b conduct strict history' history c := by
  refine ⟨h.plan.symm, ?_, ?_⟩
  · rw [Distinct, h.names]
    exact h.distinct
  · rw [h.plan]
    exact (h.libraries.imp fun _ _ alike => alike.symm).flip

theorem mono (h : c.Alike b conduct strict history history' c')
    (since : Since history history' later later') : c.Alike b conduct strict later later' c' :=
  ⟨h.plan, h.distinct, h.libraries.imp fun _ _ alike => alike.mono since⟩

theorem loosen (h : c.Alike b conduct strict history history' c') :
    c.Alike b conduct false history history' c' :=
  ⟨h.plan, h.distinct, h.libraries.imp fun _ _ alike => alike.loosen⟩

/-- A speaker belongs to alike libraries. -/
theorem library? (h : c.Alike b conduct strict history history' c') (speaker : Int64) :
    Option.Rel (VoiceLibrary.Alike b conduct strict c.plan history history') (c.library? speaker)
      (c'.library? speaker) :=
  rel_library? h.libraries (fun _ _ alike => alike.speakers) speaker

/-- In strictly alike catalogues the same speakers have their models loaded. -/
theorem isLoaded (h : c.Alike b conduct true history history' c') (speaker : Int64) :
    c'.isLoaded speaker = c.isLoaded speaker := by
  unfold Catalogue.isLoaded
  have alike := h.library? speaker
  generalize c.library? speaker = found at alike
  generalize c'.library? speaker = found' at alike
  cases alike with
  | none => rfl
  | some alike => exact alike.states rfl

theorem speakers (h : c.Alike b conduct strict history history' c') :
    c'.speakers = c.speakers := by
  unfold Catalogue.speakers
  rw [List.flatMap_def, List.flatMap_def,
    map_eq_of_forall₂ h.libraries fun _ _ alike => alike.speakers]

theorem verdict (h : c.Alike b conduct strict history history' c') (speaker : Int64) :
    c'.verdict conduct speaker = c.verdict conduct speaker := by
  unfold Catalogue.verdict Catalogue.library
  rw [h.plan]
  have alike := h.library? speaker
  generalize c.library? speaker = found at alike
  generalize c'.library? speaker = found' at alike
  cases alike with
  | none => rfl
  | some alike => exact alike.verdict

/-- Putting alike libraries in their places leaves the catalogues alike. -/
theorem replace (h : c.Alike b conduct strict history history' c')
    (since : Since history history' later later')
    (alike : l.Alike b conduct strict c.plan later later' l') :
    (c.replace l).Alike b conduct strict later later' (c'.replace l') := by
  refine ⟨h.plan, ?_, ?_⟩
  · rw [Distinct, names_replace]
    exact h.distinct
  · show List.Forall₂ _ (c.libraries.map _) (c'.libraries.map _)
    rw [List.forall₂_map_left_iff, List.forall₂_map_right_iff]
    refine h.libraries.imp fun other other' here => ?_
    rw [here.name, alike.name]
    split
    · exact alike
    · exact here.mono since

/-- Putting the loaded library of a speaker in its place on one side leaves the catalogues alike, up
to their load states. -/
theorem replace_left (h : c.Alike b conduct strict history history' c')
    (found : c.library? speaker = some l) (grown : history <+: later)
    (gains : l.Gains b conduct c.plan history later l') :
    (c.replace l').Alike b conduct false later history' c' := by
  refine ⟨h.plan, ?_, ?_⟩
  · rw [Distinct, names_replace]
    exact h.distinct
  · show List.Forall₂ _ (c.libraries.map _) c'.libraries
    rw [List.forall₂_map_left_iff]
    have each := (List.forall₂_and_left _ _).2 ⟨fun other mem => mem, h.libraries⟩
    refine each.imp fun other other' => ?_
    rintro ⟨mem, here⟩
    split
    case isTrue same =>
      -- Names are distinct, so the library that is replaced is the speaker's.
      obtain rfl : other = l := List.inj_on_of_nodup_map h.distinct mem (mem_of_library? found)
        (same.trans gains.name)
      exact here.gains_left gains
    case isFalse => exact here.loosen.mono ⟨grown, List.prefix_refl _⟩

/-- Speakers of alike catalogues have sessions that answer alike, or they have none for the same
reason, if their models are loaded in both or in neither. -/
theorem coupled_sessions {σ τ : Type} {kept : σ → τ → Prop} {s : σ} {t : τ}
    (h : c.Alike b conduct strict history history' c')
    (states : c'.isLoaded speaker = c.isLoaded speaker) (now : kept s t) :
    Coupled kept
      (fun sessions sessions' s' t' => sessions.Interchangeable b history history' sessions' ∧
        s' = s ∧ t' = t)
      (liftM (c.sessions speaker)) (liftM (c'.sessions speaker)) s t := by
  unfold Catalogue.isLoaded at states
  unfold Catalogue.sessions Catalogue.library
  have alike := h.library? speaker
  generalize c.library? speaker = found at states alike
  generalize c'.library? speaker = found' at states alike
  cases alike with
  | none => exact .throw _ now
  | @some l l' alike =>
    have states : l'.isLoaded = l.isLoaded := states
    unfold VoiceLibrary.isLoaded at states
    simp only [except_ok_bind]
    cases state : l.state with
    | loaded sessions =>
      cases state' : l'.state with
      | loaded sessions' => exact .pure ⟨alike.interchangeable state state', rfl, rfl⟩
      | unloaded models => simp [state, state'] at states
    | unloaded models =>
      cases state' : l'.state with
      | loaded sessions' => simp [state, state'] at states
      | unloaded models' => exact .throw _ now

end Alike

/-! ## Loads -/

section

variable {b : Backend S} {conduct : Conduct} {strict : Bool} {history history' : History S}
  (follows : b.Follows conduct)

include follows

/-- Loading for a speaker ends alike on alike catalogues. -/
theorem Alike.coupled_load (h : c.Alike b conduct strict history history' c') (speaker : Int64) :
    Coupled (Since history history')
      (fun c₁ c₁' later later' => Since history history' later later' ∧
        c₁.Alike b conduct strict later later' c₁' ∧
        c₁.isLoaded speaker = true ∧ c₁'.isLoaded speaker = true)
      (c.load b speaker) (c'.load b speaker) history history' := by
  have left := c.coupled_load follows (List.prefix_refl history) speaker
  have right := c'.coupled_load follows (List.prefix_refl history') speaker
  rw [h.verdict speaker] at right
  refine (left.meet right).mono ?_ ?_
  · rintro later later' ⟨-, grown, grown'⟩
    exact ⟨grown, grown'⟩
  · rintro c₁ c₁' later later'
      ⟨-, -, ⟨grown, l, l₁, found, gains, rfl⟩, ⟨grown', l', l₁', found', gains', rfl⟩⟩
    have alike := h.library? speaker
    rw [found, found'] at alike
    rw [h.plan] at gains'
    refine ⟨⟨grown, grown'⟩, ?_, ?_, ?_⟩
    · cases alike with
      | some alike => exact h.replace ⟨grown, grown'⟩ (alike.gains gains gains')
    · rw [isLoaded_of_library? (library?_replace found gains.name gains.speakers), gains.loaded]
    · rw [isLoaded_of_library? (library?_replace found' gains'.name gains'.speakers),
        gains'.loaded]

/-- Loading everything twice, each time after another history, ends alike. -/
theorem Alike.coupled_loadAll (h : c.Alike b conduct strict history history' c) :
    Coupled (fun _ _ => True)
      (fun c₁ c₁' later later' => c₁.Alike b conduct strict later later' c₁')
      (c.loadAll b) (c.loadAll b) history history' := by
  have left := coupled_mapM_load follows (List.prefix_refl history) c.plan c.libraries
  have right := coupled_mapM_load follows (List.prefix_refl history') c.plan c.libraries
  unfold loadAll
  refine .bind ((left.meet right).mono (fun _ _ _ => trivial) fun _ _ _ _ => id) ?_
  rintro loaded loaded' later later' ⟨-, -, ⟨-, each⟩, ⟨-, each'⟩⟩
  refine .pure ⟨rfl, h.distinct_of_gains each, ?_⟩
  have between := forall₂_meet h.libraries each fun l l' l₁ alike gains =>
    show ∃ l, _ ∧ _ from ⟨l, alike, gains⟩
  refine (forall₂_meet between.flip each' ?_).flip
  rintro l' l₁ l₁' ⟨l, alike, gains⟩ gains'
  exact alike.gains gains gains'

/-- Loading everything or nothing ends alike, up to the load states, if every model is taken. -/
theorem Alike.coupled_loadAll_left (h : c.Alike b conduct strict history history' c)
    (taken : conduct.TakesAll) :
    Coupled (fun _ _ => True)
      (fun c₁ c₁' later later' => c₁.Alike b conduct false later later' c₁')
      (c.loadAll b) (pure c) history history' := by
  have loads := coupled_mapM_load follows (List.prefix_refl history) c.plan c.libraries
  have succeeds : c.libraries.mapM (VoiceLibrary.verdict conduct c.plan) =
      .ok (c.libraries.map fun _ => ()) := by
    rw [mapM_eq_ok_iff, List.map_map]
    exact List.map_congr_left fun l _ => taken.verdict_library c.plan l
  rw [succeeds] at loads
  obtain ⟨loaded, later, run, -, each⟩ := loads.exists_ok rfl
  unfold Coupled loadAll
  rw [outcome_bind, run]
  refine .ok ⟨rfl, h.distinct_of_gains each, ?_⟩
  exact forall₂_meet h.libraries each fun _ _ _ alike gains => alike.gains_left gains

/-- Opening twice ends alike. -/
theorem coupled_openAt (tree : FileTree) (root : Path) (options : CatalogueOptions) :
    Coupled (fun _ _ => True) (fun c c' later later' => c.Alike b conduct true later later' c')
      (openAt b tree root options) (openAt b tree root options) history history' := by
  refine .liftBind trivial fun c isRead => ?_
  obtain ⟨distinct, unloaded, -⟩ := of_read isRead
  have fresh := Alike.of_unloaded b conduct true history history' distinct unloaded
  split
  · exact fresh.coupled_loadAll follows
  · exact .pure fresh

/-- Opening with or without loading everything ends alike, up to the load states, if every model is
taken. -/
theorem coupled_openAt_loadAll (taken : conduct.TakesAll) (tree : FileTree) (root : Path)
    (options : CatalogueOptions) (loadAll : Bool) :
    Coupled (fun _ _ => True) (fun c c' later later' => c.Alike b conduct false later later' c')
      (openAt b tree root options) (openAt b tree root { options with loadAll })
      history history' := by
  refine .liftBind trivial fun c isRead => ?_
  obtain ⟨distinct, unloaded, -⟩ := of_read isRead
  have fresh (history history') :=
    Alike.of_unloaded b conduct false history history' distinct unloaded
  cases options.loadAll with
  | true =>
    cases loadAll with
    | true => exact (fresh history history').coupled_loadAll follows
    | false => exact (fresh history history').coupled_loadAll_left follows taken
  | false =>
    cases loadAll with
    | true =>
      refine ((fresh history' history).coupled_loadAll_left follows taken).symm.mono
        (fun _ _ => id) ?_
      intro _ _ _ _ alike
      exact alike.symm
    | false => exact .pure (fresh history history')

end

end Catalogue

end KanaVoice
