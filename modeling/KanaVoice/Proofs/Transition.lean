import KanaVoice.Proofs.Outcome
set_option autoImplicit false

/-!
# Transitions of failing computations

A computation leads from the state it starts in to the state it leaves, whether it succeeds or
fails.  What it does to the state is a relation between the two; if the relation is a preorder, it
follows the sequence like an invariant does.  The history of calls is such a state: it only grows,
and what is said of it is the kind of events that it grows by.  A computation is steady if the state
it starts in makes no difference to its answer.
-/

namespace KanaVoice

section

variable {σ α β : Type}

/-- From every state the computation leads to a related one, however it ends. -/
def Moves (R : σ → σ → Prop) (x : ExceptT Fault (StateM σ) α) : Prop :=
  ∀ s, R s (outcome x s).2

namespace Moves

variable {R : σ → σ → Prop} [IsPreorder σ R] {x : ExceptT Fault (StateM σ) α}
  {f : α → ExceptT Fault (StateM σ) β}

theorem pure (a : α) : Moves R (Pure.pure a : ExceptT Fault (StateM σ) α) := by
  intro s
  exact Std.Refl.refl s

theorem throw (fault : Fault) :
    Moves R (MonadExcept.throw fault : ExceptT Fault (StateM σ) α) := by
  intro s
  exact Std.Refl.refl s

theorem lift (y : Except Fault α) : Moves R (liftM y : ExceptT Fault (StateM σ) α) := by
  intro s
  exact Std.Refl.refl s

theorem bind (h : Moves R x) (next : ∀ a, Moves R (f a)) : Moves R (x >>= f) := by
  intro s
  have first := h s
  rw [outcome_bind]
  cases run : outcome x s with
  | mk answer t =>
    rw [run] at first
    cases answer with
    | ok a => exact IsTrans.trans _ _ _ first (next a t)
    | error fault => exact first

/-- Behind a pure step only what it succeeds with has to be followed. -/
theorem liftBind {y : Except Fault α} (next : ∀ a, y = .ok a → Moves R (f a)) :
    Moves R (liftM y >>= f) := by
  intro s
  rw [outcome_bind, outcome_liftM]
  cases y with
  | ok a => exact next a rfl s
  | error fault => exact Std.Refl.refl s

end Moves

/-- The computation gives one answer, whatever state it starts in. -/
def Steady (x : ExceptT Fault (StateM σ) α) : Prop :=
  ∀ s t, (outcome x s).1 = (outcome x t).1

namespace Steady

variable {x : ExceptT Fault (StateM σ) α} {f : α → ExceptT Fault (StateM σ) β}

theorem pure (a : α) : Steady (Pure.pure a : ExceptT Fault (StateM σ) α) := by
  intro s t
  rfl

theorem throw (fault : Fault) :
    Steady (MonadExcept.throw fault : ExceptT Fault (StateM σ) α) := by
  intro s t
  rfl

theorem lift (y : Except Fault α) : Steady (liftM y : ExceptT Fault (StateM σ) α) := by
  intro s t
  rfl

theorem bind (h : Steady x) (next : ∀ a, Steady (f a)) : Steady (x >>= f) := by
  intro s t
  have same := h s t
  rw [outcome_bind, outcome_bind]
  cases first : outcome x s with
  | mk answer s' =>
    cases second : outcome x t with
    | mk answer' t' =>
      rw [first, second] at same
      obtain rfl : answer = answer' := same
      cases answer with
      | ok a => exact next a s' t'
      | error fault => rfl

/-- Behind a pure step only what it succeeds with has to be steady. -/
theorem liftBind {y : Except Fault α} (next : ∀ a, y = .ok a → Steady (f a)) :
    Steady (liftM y >>= f) := by
  intro s t
  rw [outcome_bind, outcome_bind, outcome_liftM, outcome_liftM]
  cases y with
  | ok a => exact next a rfl s t
  | error fault => rfl

end Steady

end

/-! ## Growing histories -/

section

variable {S : Type} {kind : Event S → Prop}

/-- The history has grown by events of a kind. -/
def Appends (kind : Event S → Prop) (history history' : History S) : Prop :=
  ∃ events, history' = history ++ events ∧ ∀ event ∈ events, kind event

instance : IsPreorder (History S) (Appends kind) where
  refl history := ⟨[], (List.append_nil history).symm, nofun⟩
  trans := by
    rintro history _ _ ⟨first, rfl, firstKind⟩ ⟨second, rfl, secondKind⟩
    refine ⟨first ++ second, List.append_assoc .., ?_⟩
    exact List.forall_mem_append.2 ⟨firstKind, secondKind⟩

theorem appends_singleton {event : Event S} (h : kind event) (history : History S) :
    Appends kind history (history ++ [event]) := by
  refine ⟨[event], rfl, ?_⟩
  intro other mem
  rwa [List.mem_singleton.1 mem]

end

end KanaVoice
