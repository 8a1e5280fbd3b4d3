import KanaVoice.Proofs.Engine.Unnoticed
import KanaVoice.Proofs.Engine.WithoutVoices
import KanaVoice.Proofs.Library.Opening
set_option autoImplicit false

/-!
# Steps in the life of an engine

An engine is started, stopped and asked, in any order and as often as one likes.  A start makes it
forget: what it has afterwards is what was read by this start, and from here on it answers as an
engine does that was never started before.  So whether it has voices is decided by the last of its
starts and stops alone.
-/

namespace KanaVoice

variable {S : Type}

namespace Engine

/-! ## Steps -/

/-- What may happen to an engine. -/
inductive Step where
  | start (tree : FileTree) (root : Path) (options : CatalogueOptions)
  | stop
  | ask (request : Request)

/-- The operation that is a step. -/
def Step.op (b : Backend S) : Step → Op S Reply
  | .start tree root options => do
    Engine.start b tree root options
    pure .done
  | .stop => do
    modify Engine.stop
    pure .done
  | .ask request => request.op b

/-- The engine after steps, whatever becomes of them. -/
def after (b : Backend S) (steps : List Step) (e : Engine S) : Engine S :=
  steps.foldl (fun e step => (outcome (step.op b) e).2) e

/-- The steps with their answers. -/
def transcript (b : Backend S) : List Step → Engine S → List (Step × Except Fault Reply)
  | [], _ => []
  | step :: rest, e =>
    (step, (outcome (step.op b) e).1) :: transcript b rest (outcome (step.op b) e).2

variable {b : Backend S} {tree : FileTree} {root : Path} {options : CatalogueOptions}

theorem outcome_start_step (e : Engine S) :
    outcome (Step.op b (.start tree root options)) e =
      ((outcome (start b tree root options) e).1.map fun _ => .done,
        (outcome (start b tree root options) e).2) := by
  unfold Step.op
  rw [outcome_bind]
  cases outcome (start b tree root options) e with
  | mk answer e' => cases answer <;> rfl

/-! ## Strictly alike engines -/

section

variable {conduct : Conduct} (follows : b.Follows conduct)

include follows

theorem agree_start_step (tree : FileTree) (root : Path) (options : CatalogueOptions)
    (e e' : Engine S) :
    Agree (Alike b conduct true) (Step.op b (.start tree root options))
      (Step.op b (.start tree root options)) e e' :=
  (agree_start follows tree root options e e').map _

/-- A step ends alike in strictly alike engines. -/
theorem agree_step {e e' : Engine S} (h : Alike b conduct true e e') (step : Step) :
    Agree (Alike b conduct true) (step.op b) (step.op b) e e' := by
  cases step with
  | start tree root options => exact agree_start_step follows tree root options e e'
  | stop => exact .ok ⟨rfl, .stopped rfl rfl⟩
  | ask request => exact agree_request follows h request fun speaker _ => h.isLoaded speaker

/-- Strictly alike engines have one transcript, and they are strictly alike afterwards. -/
theorem transcript_eq_of_alike {e e' : Engine S} (h : Alike b conduct true e e')
    (steps : List Step) :
    transcript b steps e = transcript b steps e' ∧
      Alike b conduct true (after b steps e) (after b steps e') := by
  induction steps generalizing e e' with
  | nil => exact ⟨rfl, h⟩
  | cons step rest ih =>
    have agree := agree_step follows h step
    obtain ⟨same, alike⟩ := ih agree.state
    rw [transcript, transcript, agree.answer, same]
    exact ⟨rfl, alike⟩

/-- From a start on nothing depends on what the engine was. -/
theorem transcript_start (later : List Step) (e e' : Engine S) :
    transcript b (.start tree root options :: later) e =
        transcript b (.start tree root options :: later) e' ∧
      (after b (.start tree root options :: later) e).isStarted =
        (after b (.start tree root options :: later) e').isStarted := by
  have agree := agree_start_step follows tree root options e e'
  obtain ⟨same, alike⟩ := transcript_eq_of_alike follows agree.state later
  rw [transcript, transcript, agree.answer, same]
  exact ⟨rfl, alike.isStarted.symm⟩

end

/-! ## What a start reads -/

/-- The voices are those under the root. -/
structure OpenedAs (b : Backend S) (tree : FileTree) (root : Path) (options : CatalogueOptions)
    (v : Voices S) : Prop where
  symbols : SymbolTable.loadOrBuiltIn tree root = .ok v.symbols
  catalogue : ∃ fresh, Catalogue.read b.devices tree root options = .ok fresh ∧
    Catalogue.Opened options.loadAll fresh v.catalogue

theorem openedAs_of_start {e e' : Engine S}
    (h : outcome (start b tree root options) e = (.ok (), e')) :
    ∃ v, e'.voices = some v ∧ OpenedAs b tree root options v := by
  rw [outcome_start] at h
  split at h
  case h_1 => cases h
  case h_2 symbols found =>
    cases opened : outcome (Catalogue.openAt b tree root options) e.history with
    | mk answer history =>
      rw [opened] at h
      cases answer with
      | error fault => cases h
      | ok catalogue =>
        cases h
        exact ⟨_, rfl, found, Catalogue.opened_of_openAt opened⟩

/-! ## Whether an engine has voices -/

/-- Neither of two engines has voices, or both have. -/
def SameStarted (e e' : Engine S) : Prop := e'.isStarted = e.isStarted

instance : IsPreorder (Engine S) SameStarted where
  refl _ := rfl
  trans _ _ _ before after := after.trans before

theorem allows_sameStarted (asked : Int64 → Prop) : Allows b asked SameStarted where
  calls _ _ := rfl
  load speaker _ e := by
    unfold SameStarted isStarted
    cases started : e.voices with
    | none =>
      unfold requireLoaded
      rw [outcome_bind, outcome_requireVoices, started]
      exact congrArg Option.isSome started
    | some v =>
      rw [outcome_requireLoaded_of_started b started]
      cases outcome (v.catalogue.load b speaker) e.history with
      | mk answer history => cases answer <;> rfl

theorem isStarted_ask (request : Request) (e : Engine S) :
    (outcome (Step.op b (.ask request)) e).2.isStarted = e.isStarted :=
  (allows_sameStarted _).request e

theorem isStarted_start (e : Engine S) :
    (outcome (Step.op b (.start tree root options)) e).2.isStarted = true ↔
      ∃ e', outcome (start b tree root options) e = (.ok (), e') := by
  rw [outcome_start_step]
  cases run : outcome (start b tree root options) e with
  | mk answer e' =>
    cases answer with
    | ok =>
      obtain ⟨v, started, -⟩ := openedAs_of_start run
      simp [isStarted, started]
    | error fault => simp [isStarted, voices_of_not_started b run]

theorem after_concat (steps : List Step) (step : Step) (e : Engine S) :
    after b (steps ++ [step]) e = (outcome (step.op b) (after b steps e)).2 := by
  rw [after, List.foldl_append]
  rfl

/-- The last start or stop among the steps is a successful start. -/
def EndsStarted (b : Backend S) (steps : List Step) : Prop :=
  ∃ earlier tree root options later, steps = earlier ++ Step.start tree root options :: later ∧
    (∀ step ∈ later, ∃ request, step = .ask request) ∧
    ∃ e, outcome (start b tree root options) (after b earlier {}) = (.ok (), e)

/-- The last step is such a start, or it is a request and does not count. -/
theorem endsStarted_concat_iff {steps : List Step} {step : Step} :
    EndsStarted b (steps ++ [step]) ↔
      (∃ tree root options, step = .start tree root options ∧
        ∃ e, outcome (start b tree root options) (after b steps {}) = (.ok (), e)) ∨
      ((∃ request, step = .ask request) ∧ EndsStarted b steps) := by
  constructor
  · rintro ⟨earlier, tree, root, options, later, split, asks, started⟩
    rcases List.eq_nil_or_concat' later with rfl | ⟨before, last, rfl⟩
    · obtain ⟨rfl, ⟨⟩⟩ := List.append_inj' split rfl
      exact .inl ⟨tree, root, options, rfl, started⟩
    · rw [← List.cons_append, ← List.append_assoc] at split
      obtain ⟨rfl, ⟨⟩⟩ := List.append_inj' split rfl
      obtain ⟨asksBefore, asksLast⟩ := List.forall_mem_append.1 asks
      refine .inr ⟨asksLast step (List.mem_singleton_self step), ?_⟩
      exact ⟨earlier, tree, root, options, before, rfl, asksBefore, started⟩
  · rintro (⟨tree, root, options, rfl, started⟩ | ⟨⟨request, rfl⟩, ends⟩)
    · exact ⟨steps, tree, root, options, [], rfl, nofun, started⟩
    · obtain ⟨earlier, tree, root, options, later, rfl, asks, started⟩ := ends
      refine ⟨earlier, tree, root, options, later ++ [.ask request], by simp, ?_, started⟩
      exact List.forall_mem_append.2 ⟨asks, by simp⟩

/-- An engine has voices exactly when the last of its starts and stops was a start that succeeded.
-/
theorem isStarted_after_iff (steps : List Step) :
    (after b steps {}).isStarted = true ↔ EndsStarted b steps := by
  induction steps using List.reverseRecOn with
  | nil =>
    constructor
    · rintro ⟨⟩
    · rintro ⟨earlier, _, _, _, later, split, -⟩
      simp at split
  | append_singleton steps step ih =>
    rw [after_concat, endsStarted_concat_iff]
    cases step with
    | start tree root options =>
      rw [isStarted_start]
      simp
    | stop =>
      constructor
      · rintro ⟨⟩
      · simp
    | ask request =>
      rw [isStarted_ask, ih]
      simp

/-! ## Forgetting -/

/-- Starting an engine makes it forget what it was. -/
structure Forgets (b : Backend S) (tree : FileTree) (root : Path) (options : CatalogueOptions)
    (e : Engine S) : Prop where
  failed : ∀ fault e', outcome (start b tree root options) e = (.error fault, e') →
    e'.isStarted = false
  opened : ∀ e', outcome (start b tree root options) e = (.ok (), e') →
    ∃ v, e'.voices = some v ∧ OpenedAs b tree root options v
  /-- What voices it had makes no difference to anything. -/
  voices : ∀ voices, outcome (start b tree root options) { e with voices } =
    outcome (start b tree root options) e
  /-- Nor does what it has called, if the backend does not remember. -/
  fresh : ∀ conduct, b.Follows conduct → ∀ later,
    transcript b (.start tree root options :: later) e =
        transcript b (.start tree root options :: later) {} ∧
      (after b (.start tree root options :: later) e).isStarted =
        (after b (.start tree root options :: later) {}).isStarted

/-- Every start makes every engine forget, and an engine has voices exactly when the last of its
starts and stops was a start that succeeded. -/
theorem forgets_and_isStarted_iff (b : Backend S) :
    (∀ tree root options e, Forgets b tree root options e) ∧
      ∀ steps, (after b steps {}).isStarted = true ↔ EndsStarted b steps := by
  refine ⟨fun tree root options e => ?_, isStarted_after_iff⟩
  constructor
  case failed =>
    intro fault e' failed
    rw [isStarted, voices_of_not_started b failed]
    rfl
  case opened =>
    intro e' opened
    exact openedAs_of_start opened
  case voices =>
    intro voices
    rw [outcome_start, outcome_start]
    rfl
  case fresh =>
    intro conduct follows later
    exact transcript_start follows later e {}

/-- A start that fails leaves nothing of one that succeeded before. -/
theorem forgets_and_isStarted_iff_question :
    (after questionBackend [.start questionTree ⟨"voices"⟩ {}, .ask (.load 7)]
        {}).isStarted = true ∧
      (after questionBackend [.start questionTree ⟨"voices"⟩ {}, .start .empty ⟨"voices"⟩ {}]
        {}).isStarted = false := by
  obtain ⟨forgets, isStarted⟩ := forgets_and_isStarted_iff questionBackend
  constructor
  · obtain ⟨e₁, opened, -⟩ := outcome_start_question
    refine (isStarted _).2 ⟨[], questionTree, ⟨"voices"⟩, {}, [.ask (.load 7)], rfl, ?_, e₁, opened⟩
    simp
  · let e₁ := after questionBackend [.start questionTree ⟨"voices"⟩ {}] {}
    have fails : (outcome (start questionBackend .empty ⟨"voices"⟩ {}) e₁).1.isOk = false := by
      decide +kernel
    show (outcome (Step.op questionBackend (.start .empty ⟨"voices"⟩ {})) e₁).2.isStarted = false
    rw [outcome_start_step]
    cases run : outcome (start questionBackend .empty ⟨"voices"⟩ {}) e₁ with
    | mk answer e₂ =>
      cases answer with
      | ok =>
        rw [run] at fails
        cases fails
      | error fault => exact (forgets .empty ⟨"voices"⟩ {} e₁).failed fault e₂ run

end Engine

end KanaVoice
