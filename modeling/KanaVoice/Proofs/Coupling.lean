import KanaVoice.Proofs.Transition
set_option autoImplicit false

/-!
# Coupled computations

Two computations that start in different states may end alike all the same: both fail with one
fault, or both succeed.  What is then known of the two states, and of the two values if there are
any, is a relation between them, and it follows the two sequences step by step.
-/

namespace KanaVoice

variable {σ τ α α' β β' : Type}

/-- Two outcomes are alike: the same fault in states that are `kept`, or two values in states that
are `related` with them. -/
inductive EndAlike (kept : σ → τ → Prop) (related : α → α' → σ → τ → Prop) :
    Except Fault α × σ → Except Fault α' × τ → Prop
  | ok {a : α} {a' : α'} {s : σ} {t : τ} : related a a' s t →
    EndAlike kept related (.ok a, s) (.ok a', t)
  | error {fault : Fault} {s : σ} {t : τ} : kept s t →
    EndAlike kept related (.error fault, s) (.error fault, t)

/-- Two computations, each from its own state, end alike. -/
def Coupled (kept : σ → τ → Prop) (related : α → α' → σ → τ → Prop)
    (x : ExceptT Fault (StateM σ) α) (y : ExceptT Fault (StateM τ) α') (s : σ) (t : τ) : Prop :=
  EndAlike kept related (outcome x s) (outcome y t)

/-- Two computations, each from its own state, give one answer and leave states that are `kept`. -/
abbrev Agree (kept : σ → τ → Prop) (x : ExceptT Fault (StateM σ) α)
    (y : ExceptT Fault (StateM τ) α) (s : σ) (t : τ) : Prop :=
  Coupled kept (fun a a' s t => a' = a ∧ kept s t) x y s t

section

variable {kept : σ → τ → Prop} {related : α → α' → σ → τ → Prop}
  {last : β → β' → σ → τ → Prop} {last' : β → α' → σ → τ → Prop} {x : ExceptT Fault (StateM σ) α}
  {y : ExceptT Fault (StateM τ) α'} {f : α → ExceptT Fault (StateM σ) β}
  {g : α' → ExceptT Fault (StateM τ) β'} {s : σ} {t : τ}

namespace Coupled

theorem pure {a : α} {a' : α'} (h : related a a' s t) :
    Coupled kept related (Pure.pure a) (Pure.pure a') s t :=
  .ok h

theorem throw (fault : Fault) (h : kept s t) :
    Coupled kept related (MonadExcept.throw fault) (MonadExcept.throw fault) s t :=
  .error h

theorem bind (h : Coupled kept related x y s t)
    (next : ∀ a a' s t, related a a' s t → Coupled kept last (f a) (g a') s t) :
    Coupled kept last (x >>= f) (y >>= g) s t := by
  unfold Coupled at h ⊢
  rw [outcome_bind, outcome_bind]
  generalize outcome x s = first at h
  generalize outcome y t = second at h
  cases h with
  | ok h => exact next _ _ _ _ h
  | error h => exact .error h

/-- Behind a pure step of both only what it succeeds with has to be followed. -/
theorem liftBind {γ : Type} {z : Except Fault γ} {f : γ → ExceptT Fault (StateM σ) β}
    {g : γ → ExceptT Fault (StateM τ) β'} (now : kept s t)
    (next : ∀ c, z = .ok c → Coupled kept last (f c) (g c) s t) :
    Coupled kept last (liftM z >>= f) (liftM z >>= g) s t := by
  cases z with
  | ok c => exact next c rfl
  | error fault => exact .error now

/-- Behind a change of both states the changed ones count. -/
theorem modifyBind {change : σ → σ} {change' : τ → τ} {f : Unit → ExceptT Fault (StateM σ) β}
    {g : Unit → ExceptT Fault (StateM τ) β'}
    (next : Coupled kept last (f ()) (g ()) (change s) (change' t)) :
    Coupled kept last (modify change >>= f) (modify change' >>= g) s t :=
  next

theorem mono {kept' : σ → τ → Prop} {related' : α → α' → σ → τ → Prop}
    (h : Coupled kept related x y s t) (states : ∀ s t, kept s t → kept' s t)
    (values : ∀ a a' s t, related a a' s t → related' a a' s t) :
    Coupled kept' related' x y s t := by
  unfold Coupled at h ⊢
  generalize outcome x s = first at h ⊢
  generalize outcome y t = second at h ⊢
  cases h with
  | ok h => exact .ok (values _ _ _ _ h)
  | error h => exact .error (states _ _ h)

theorem symm (h : Coupled kept related x y s t) :
    Coupled (fun t s => kept s t) (fun a' a t s => related a a' s t) y x t s := by
  unfold Coupled at h ⊢
  generalize outcome x s = first at h ⊢
  generalize outcome y t = second at h ⊢
  cases h with
  | ok h => exact .ok h
  | error h => exact .error h

/-- What a computation returns may be changed last. -/
theorem mapLeft {h : α → β} (alike : Coupled kept related x y s t)
    (values : ∀ a a' s t, related a a' s t → last' (h a) a' s t) :
    Coupled kept last' (x >>= fun a => Pure.pure (h a)) y s t := by
  unfold Coupled at alike ⊢
  rw [outcome_bind]
  generalize outcome x s = first at alike
  generalize outcome y t = second at alike
  cases alike with
  | ok h => exact .ok (values _ _ _ _ h)
  | error h => exact .error h

theorem exists_ok {a' : α'} {t' : τ} (h : Coupled kept related x y s t)
    (succeeds : outcome y t = (.ok a', t')) :
    ∃ a s', outcome x s = (.ok a, s') ∧ related a a' s' t' := by
  unfold Coupled at h
  rw [succeeds] at h
  generalize outcome x s = first at h
  cases h with
  | ok h => exact ⟨_, _, rfl, h⟩

/-- Two computations that are coupled to one third are coupled to each other. -/
theorem meet {ρ γ : Type} {third : ExceptT Fault (StateM ρ) γ} {r : ρ} {kept' : τ → ρ → Prop}
    {kept'' : σ → ρ → Prop} {related' : α' → γ → τ → ρ → Prop} {related'' : α → γ → σ → ρ → Prop}
    (h : Coupled kept'' related'' x third s r) (h' : Coupled kept' related' y third t r) :
    Coupled (fun s t => ∃ r, kept'' s r ∧ kept' t r)
      (fun a a' s t => ∃ c r, related'' a c s r ∧ related' a' c t r) x y s t := by
  unfold Coupled at h h' ⊢
  generalize outcome x s = first at h ⊢
  generalize outcome y t = second at h' ⊢
  generalize outcome third r = last at h h'
  cases h with
  | ok h =>
    cases h' with
    | ok h' => exact .ok ⟨_, _, h, h'⟩
  | error h =>
    cases h' with
    | error h' => exact .error ⟨_, h, h'⟩

end Coupled

namespace Agree

variable {z : ExceptT Fault (StateM τ) α} {f' : α → ExceptT Fault (StateM τ) β}

theorem lift (y : Except Fault α) (h : kept s t) : Agree kept (liftM y) (liftM y) s t := by
  cases y with
  | ok a => exact .ok ⟨rfl, h⟩
  | error fault => exact .error h

theorem bind (h : Agree kept x z s t) (next : ∀ a s t, kept s t → Agree kept (f a) (f' a) s t) :
    Agree kept (x >>= f) (z >>= f') s t := by
  refine Coupled.bind h ?_
  rintro _ a s t ⟨rfl, h⟩
  exact next a s t h

theorem map (h : Agree kept x z s t) (f : α → β) :
    Agree kept (x >>= fun a => Pure.pure (f a)) (z >>= fun a => Pure.pure (f a)) s t :=
  h.bind fun _ _ _ h => .pure ⟨rfl, h⟩

theorem answer (h : Agree kept x z s t) : (outcome z t).1 = (outcome x s).1 := by
  unfold Agree Coupled at h
  generalize outcome x s = first at h ⊢
  generalize outcome z t = second at h ⊢
  cases h with
  | ok h => exact congrArg Except.ok h.1
  | error => rfl

theorem state (h : Agree kept x z s t) : kept (outcome x s).2 (outcome z t).2 := by
  unfold Agree Coupled at h
  generalize outcome x s = first at h ⊢
  generalize outcome z t = second at h ⊢
  cases h with
  | ok h => exact h.2
  | error h => exact h

theorem of_eq (answer : (outcome z t).1 = (outcome x s).1)
    (state : kept (outcome x s).2 (outcome z t).2) : Agree kept x z s t := by
  unfold Agree Coupled
  generalize outcome x s = first at answer state
  generalize outcome z t = second at answer state
  obtain ⟨first, s'⟩ := first
  obtain ⟨second, t'⟩ := second
  obtain rfl : second = first := answer
  cases second with
  | ok a => exact .ok ⟨rfl, state⟩
  | error fault => exact .error state

end Agree

end

/-! ## Two histories -/

section

variable {S : Type} {history history' later later' : History S}

/-- Two histories have grown from two earlier ones. -/
def Since (history history' later later' : History S) : Prop :=
  history <+: later ∧ history' <+: later'

theorem Since.refl (history history' : History S) : Since history history' history history' :=
  ⟨List.prefix_refl _, List.prefix_refl _⟩

theorem Since.trans {last last' : History S} (first : Since history history' later later')
    (second : Since later later' last last') : Since history history' last last' :=
  ⟨first.1.trans second.1, first.2.trans second.2⟩

end

end KanaVoice
