import KanaVoice.Proofs.Library.Alike
set_option autoImplicit false

/-!
# What an opened catalogue has

A catalogue that is opened has the libraries that are read under the root, in their order and with
their speakers.  Either all of them have been loaded, or none.
-/

namespace KanaVoice

variable {S : Type} {b : Backend S}

theorem VoiceLibrary.withSessions_of_load {plan : LoadPlan} {l l' : VoiceLibrary S}
    {history history' : History S} (unloaded : l.isLoaded = false)
    (h : outcome (l.load b plan) history = (.ok l', history')) :
    ∃ sessions, l' = l.withSessions sessions := by
  obtain ⟨models, state⟩ := isLoaded_eq_false_iff.1 unloaded
  obtain ⟨events, result, -, run⟩ := outcome_load_of_unloaded b state plan history
  rw [run] at h
  cases result with
  | error fault => cases h
  | ok sessions =>
    cases h
    exact ⟨sessions, rfl⟩

namespace Catalogue

/-- The catalogue is the one that was read, with all of its libraries loaded or none. -/
structure Opened (loadAll : Bool) (fresh c : Catalogue S) : Prop where
  plan : c.plan = fresh.plan
  libraries : List.Forall₂
    (fun l l' => if loadAll then ∃ sessions, l' = l.withSessions sessions else l' = l)
    fresh.libraries c.libraries
  speakers : ∀ speaker, c.libraryName? speaker = fresh.libraryName? speaker
  loaded : ∀ l ∈ c.libraries, l.isLoaded = loadAll

theorem opened_of_forall₂ {loadAll : Bool} {fresh c : Catalogue S} (plan : c.plan = fresh.plan)
    (unloaded : ∀ l ∈ fresh.libraries, l.isLoaded = false)
    (libraries : List.Forall₂
      (fun l l' => if loadAll then ∃ sessions, l' = l.withSessions sessions else l' = l)
      fresh.libraries c.libraries) : Opened loadAll fresh c := by
  -- Whether it is loaded or not, a library has the name and the speakers that it had.
  have kept : ∀ l l' : VoiceLibrary S,
      (if loadAll then ∃ sessions, l' = l.withSessions sessions else l' = l) →
        l'.name = l.name ∧ l'.speakers = l.speakers := by
    intro l l' h
    split at h
    · obtain ⟨sessions, rfl⟩ := h
      exact ⟨rfl, rfl⟩
    · rw [h]
      exact ⟨rfl, rfl⟩
  refine ⟨plan, libraries, ?_, ?_⟩
  · intro speaker
    have related := rel_library? libraries (fun l l' h => (kept l l' h).2) speaker
    unfold libraryName?
    generalize fresh.library? speaker = found at related
    generalize c.library? speaker = found' at related
    cases related with
    | none => rfl
    | some h => exact congrArg some (kept _ _ h).1
  · have states : c.libraries.map VoiceLibrary.isLoaded =
        fresh.libraries.map fun _ => loadAll := by
      refine map_eq_of_forall₂ ((List.forall₂_and_left _ _).2 ⟨unloaded, libraries⟩) ?_
      rintro l l' ⟨notLoaded, h⟩
      split at h
      case isTrue eager =>
        obtain ⟨sessions, rfl⟩ := h
        exact eager.symm
      case isFalse lazily =>
        rw [h, notLoaded]
        exact (Bool.eq_false_iff.2 lazily).symm
    intro l mem
    have isState := List.mem_map_of_mem (f := VoiceLibrary.isLoaded) mem
    rw [states] at isState
    obtain ⟨-, -, same⟩ := List.mem_map.1 isState
    exact same.symm

theorem withSessions_of_mapM_load {plan : LoadPlan} {libraries loaded : List (VoiceLibrary S)}
    {history history' : History S} (unloaded : ∀ l ∈ libraries, l.isLoaded = false)
    (h : outcome (libraries.mapM (VoiceLibrary.load b plan)) history = (.ok loaded, history')) :
    List.Forall₂ (fun l l' => ∃ sessions, l' = l.withSessions sessions) libraries loaded := by
  induction libraries generalizing loaded history with
  | nil =>
    rw [List.mapM_nil, outcome_pure, Prod.mk.injEq, Except.ok.injEq] at h
    obtain ⟨rfl, -⟩ := h
    exact .nil
  | cons l rest ih =>
    rw [List.mapM_cons] at h
    obtain ⟨l', _, first, more⟩ := outcome_bind_eq_ok_iff.1 h
    obtain ⟨rest', _, second, last⟩ := outcome_bind_eq_ok_iff.1 more
    rw [outcome_pure, Prod.mk.injEq, Except.ok.injEq] at last
    obtain ⟨rfl, rfl⟩ := last
    have head := VoiceLibrary.withSessions_of_load (unloaded l List.mem_cons_self) first
    exact .cons head (ih (fun other mem => unloaded other (List.mem_cons_of_mem _ mem)) second)

/-- What is opened is what is read, loaded if the options ask for it. -/
theorem opened_of_openAt {tree : FileTree} {root : Path} {options : CatalogueOptions}
    {c : Catalogue S} {history history' : History S}
    (h : outcome (openAt b tree root options) history = (.ok c, history')) :
    ∃ fresh, read b.devices tree root options = .ok fresh ∧ Opened options.loadAll fresh c := by
  unfold openAt at h
  obtain ⟨fresh, _, first, more⟩ := outcome_bind_eq_ok_iff.1 h
  obtain ⟨isRead, rfl⟩ := outcome_liftM_eq_ok_iff.1 first
  obtain ⟨-, unloaded, -⟩ := of_read isRead
  refine ⟨fresh, isRead, ?_⟩
  split at more
  case isFalse lazily =>
    rw [outcome_pure, Prod.mk.injEq, Except.ok.injEq] at more
    obtain ⟨rfl, -⟩ := more
    refine opened_of_forall₂ rfl unloaded (List.forall₂_same.2 fun l _ => ?_)
    rw [if_neg lazily]
  case isTrue eager =>
    unfold Catalogue.loadAll at more
    obtain ⟨loaded, _, second, last⟩ := outcome_bind_eq_ok_iff.1 more
    rw [outcome_pure, Prod.mk.injEq, Except.ok.injEq] at last
    obtain ⟨rfl, -⟩ := last
    have each := withSessions_of_mapM_load unloaded second
    refine opened_of_forall₂ rfl unloaded (each.imp fun l l' gained => ?_)
    rwa [if_pos eager]

end Catalogue

end KanaVoice
