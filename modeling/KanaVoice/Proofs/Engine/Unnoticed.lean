import KanaVoice.Proofs.Engine.Alike
set_option autoImplicit false

/-!
# What goes unnoticed

Engines that are started alike are alike, whatever they were before.  From then on a request to one
of them alone goes unnoticed: it can only add to the history and load models, and the two engines
stay alike.
-/

namespace KanaVoice

variable {S : Type}

namespace Engine

variable {b : Backend S} {conduct : Conduct}

/-! ## Starts -/

section

variable {strict : Bool} {tree : FileTree} {root : Path} {options options' : CatalogueOptions}

/-- Starting is opening a catalogue, whatever the engines were. -/
theorem agree_start_of_openAt
    (opens : ∀ history history' : History S, Coupled (fun _ _ => True)
      (fun c c' later later' => c.Alike b conduct strict later later' c')
      (Catalogue.openAt b tree root options) (Catalogue.openAt b tree root options')
      history history') (e e' : Engine S) :
    Agree (Alike b conduct strict) (start b tree root options) (start b tree root options')
      e e' := by
  have opened : Coupled (Alike b conduct strict)
      (fun c c' e₁ e₁' => c.Alike b conduct strict e₁.history e₁'.history c')
      (perform (Catalogue.openAt b tree root options))
      (perform (Catalogue.openAt b tree root options')) e.stop e'.stop :=
    coupled_perform (opens e.history e'.history) (fun _ _ _ => .stopped rfl rfl)
      fun _ _ _ _ alike => alike
  refine .modifyBind (.liftBind (.stopped rfl rfl) fun symbols _ => ?_)
  refine opened.bind fun c c' e₁ e₁' alike => ?_
  exact .ok ⟨rfl, .started rfl rfl ⟨rfl, alike⟩⟩

end

section

variable (follows : b.Follows conduct)

include follows

/-- Any two engines are strictly alike after the same start. -/
theorem agree_start (tree : FileTree) (root : Path) (options : CatalogueOptions)
    (e e' : Engine S) :
    Agree (Alike b conduct true) (start b tree root options) (start b tree root options) e e' :=
  agree_start_of_openAt (fun _ _ => Catalogue.coupled_openAt follows tree root options) e e'

/-- If every model is taken, it makes no difference whether a start loads them. -/
theorem agree_start_loadAll (taken : conduct.TakesAll) (tree : FileTree) (root : Path)
    (options : CatalogueOptions) (loadAll : Bool) (e e' : Engine S) :
    Agree (Alike b conduct false) (start b tree root options)
      (start b tree root { options with loadAll }) e e' :=
  agree_start_of_openAt
    (fun _ _ => Catalogue.coupled_openAt_loadAll follows taken tree root options loadAll) e e'

end

/-- The conduct of the backend that answers always the same. -/
def questionConduct : Conduct where
  takes _ _ _ := .ok ()
  answers stage _ _ inputs := questionBackend.run [] stage inputs

theorem follows_question : questionBackend.Follows questionConduct where
  takes _ _ _ _ := rfl
  plays := by
    rintro history library stage model options _ ⟨⟩ later _ inputs
    rfl

/-! ## Requests to one engine -/

/-- What has become of an engine makes no difference to the engines that it is alike to, up to load
states. -/
def Unnoticed (b : Backend S) (conduct : Conduct) (e e₁ : Engine S) : Prop :=
  ∀ other, Alike b conduct false e other → Alike b conduct false e₁ other

instance : IsPreorder (Engine S) (Unnoticed b conduct) where
  refl _ _ := id
  trans _ _ _ before after other := after other ∘ before other

section

variable (follows : b.Follows conduct)

include follows

theorem allows_unnoticed (asked : Int64 → Prop) : Allows b asked (Unnoticed b conduct) where
  calls {_ calls} quiet e other alike := by
    obtain ⟨events, grown, -⟩ := quiet e.history
    rw [outcome_perform, grown]
    exact alike.grow ⟨List.prefix_append _ _, List.prefix_refl _⟩
  load speaker _ e other alike := by
    cases alike with
    | stopped left right =>
      unfold requireLoaded
      rw [outcome_bind, outcome_requireVoices, left]
      exact .stopped left right
    | @started v v' left right voices =>
      rw [outcome_requireLoaded_of_started b left]
      have load := v.catalogue.coupled_load follows (List.prefix_refl e.history) speaker
      unfold Coupled at load
      generalize outcome (v.catalogue.load b speaker) e.history = first at load
      generalize outcome (liftM (v.catalogue.verdict conduct speaker)) () = last at load
      cases load with
      | error grown => exact .started rfl right (voices.mono ⟨grown, List.prefix_refl _⟩)
      | ok h =>
        obtain ⟨grown, l, l', found, gains, rfl⟩ := h
        have alike := voices.catalogue.replace_left found grown gains
        exact .started rfl right ⟨voices.symbols, alike⟩

theorem unnoticed_request (request : Request) : Moves (Unnoticed b conduct) (request.op b) :=
  (allows_unnoticed follows _).request

/-- Whatever is requested from each of two alike engines, they stay alike. -/
theorem Alike.serve {e e' : Engine S} (h : Alike b conduct false e e')
    (first second : List Request) :
    Alike b conduct false (serve b first e) (serve b second e') := by
  have left : Unnoticed b conduct e (Engine.serve b first e) :=
    moves_serve b (fun request _ => unnoticed_request follows request) e
  have right : Unnoticed b conduct e' (Engine.serve b second e') :=
    moves_serve b (fun request _ => unnoticed_request follows request) e'
  exact (right _ (left _ h).symm).symm

end

end Engine

end KanaVoice
