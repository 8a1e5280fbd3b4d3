import KanaVoice.Engine.Basic
import KanaVoice.Proofs.Except
set_option autoImplicit false

/-!
# Outcomes of failing computations

Calls to the outside and operations on an engine are computations over a state that may fail and
keep what they did when they do.  This module takes such computations apart: a sequence has an
outcome exactly when its parts have the matching ones.  What holds of every value and every
fault of a computation, whatever state it starts in, is `Yields`, which follows the sequence, and
`YieldsUnder` is the same for states with an invariant.
-/

namespace KanaVoice

section

variable {σ α β : Type}

/-- How a computation ends that starts in a state: its answer and the state it leaves. -/
def outcome (x : ExceptT Fault (StateM σ) α) (s : σ) : Except Fault α × σ := x s

/-- A run that ends with an answer, of which something holds. -/
theorem exists_answer {x : Except Fault α × σ} {p : α → σ → Prop}
    (h : ∃ a ∈ x.1.toOption, p a x.2) : ∃ a s, x = (.ok a, s) ∧ p a s := by
  obtain ⟨answer, s⟩ := x
  obtain ⟨a, found, holds⟩ := h
  cases answer with
  | error fault => cases found
  | ok b =>
    cases found
    exact ⟨_, s, rfl, holds⟩

/-! ## Sequences -/

theorem outcome_bind (x : ExceptT Fault (StateM σ) α) (f : α → ExceptT Fault (StateM σ) β)
    (s : σ) :
    outcome (x >>= f) s = match outcome x s with
      | (.ok a, s) => outcome (f a) s
      | (.error fault, s) => (.error fault, s) := by
  show ExceptT.bindCont f (x s).1 (x s).2 = _
  unfold outcome
  cases h : x s with
  | mk answer s =>
    cases answer with
    | ok a => rfl
    | error fault => rfl

theorem outcome_bind_eq_ok_iff {x : ExceptT Fault (StateM σ) α}
    {f : α → ExceptT Fault (StateM σ) β} {s t : σ} {b : β} :
    outcome (x >>= f) s = (.ok b, t) ↔
      ∃ a r, outcome x s = (.ok a, r) ∧ outcome (f a) r = (.ok b, t) := by
  rw [outcome_bind]
  cases h : outcome x s with
  | mk answer r => cases answer <;> simp [and_assoc]

theorem outcome_bind_eq_error_iff {x : ExceptT Fault (StateM σ) α}
    {f : α → ExceptT Fault (StateM σ) β} {s t : σ} {fault : Fault} :
    outcome (x >>= f) s = (.error fault, t) ↔
      outcome x s = (.error fault, t) ∨
        ∃ a r, outcome x s = (.ok a, r) ∧ outcome (f a) r = (.error fault, t) := by
  rw [outcome_bind]
  cases h : outcome x s with
  | mk answer r => cases answer <;> simp [and_assoc]

/-! ## Single steps -/

@[simp] theorem outcome_pure (a : α) (s : σ) :
    outcome (pure a : ExceptT Fault (StateM σ) α) s = (.ok a, s) := rfl

@[simp] theorem outcome_throw (fault : Fault) (s : σ) :
    outcome (throw fault : ExceptT Fault (StateM σ) α) s = (.error fault, s) := rfl

@[simp] theorem outcome_liftM (x : Except Fault α) (s : σ) :
    outcome (liftM x : ExceptT Fault (StateM σ) α) s = (x, s) := rfl

theorem outcome_liftM_eq_ok_iff {x : Except Fault α} {s t : σ} {a : α} :
    outcome (liftM x : ExceptT Fault (StateM σ) α) s = (.ok a, t) ↔ x = .ok a ∧ t = s := by
  rw [outcome_liftM, Prod.mk.injEq, @eq_comm _ s]

theorem liftM_bind (x : Except Fault α) (f : α → Except Fault β) :
    (liftM (x >>= f) : ExceptT Fault (StateM σ) β) = liftM x >>= fun a => liftM (f a) := by
  cases x <;> rfl

/-! ## Every outcome -/

/-- Every value of the computation is `good`, and every fault of it is `bad`. -/
structure Yields (x : ExceptT Fault (StateM σ) α) (good : α → Prop) (bad : Fault → Prop) :
    Prop where
  value : ∀ {s t : σ} {a : α}, outcome x s = (.ok a, t) → good a
  fault : ∀ {s t : σ} {fault : Fault}, outcome x s = (.error fault, t) → bad fault

namespace Yields

variable {x : ExceptT Fault (StateM σ) α} {f : α → ExceptT Fault (StateM σ) β}
  {good : α → Prop} {last : β → Prop} {bad : Fault → Prop}

theorem bind (h : Yields x good bad) (next : ∀ a, good a → Yields (f a) last bad) :
    Yields (x >>= f) last bad where
  value run := by
    obtain ⟨a, r, first, rest⟩ := outcome_bind_eq_ok_iff.1 run
    exact (next a (h.value first)).value rest
  fault run := by
    rcases outcome_bind_eq_error_iff.1 run with first | ⟨a, r, first, rest⟩
    · exact h.fault first
    · exact (next a (h.value first)).fault rest

theorem pure {a : α} (h : good a) :
    Yields (Pure.pure a : ExceptT Fault (StateM σ) α) good bad where
  value run := by
    rw [outcome_pure, Prod.mk.injEq, Except.ok.injEq] at run
    exact run.1 ▸ h
  fault run := by simp at run

theorem throw {fault : Fault} (h : bad fault) :
    Yields (MonadExcept.throw fault : ExceptT Fault (StateM σ) α) good bad where
  value run := by simp at run
  fault run := by
    rw [outcome_throw, Prod.mk.injEq, Except.error.injEq] at run
    exact run.1 ▸ h

theorem lift {x : Except Fault α} (value : ∀ a, x = .ok a → good a) (fault : FailsOnly bad x) :
    Yields (liftM x : ExceptT Fault (StateM σ) α) good bad where
  value run := value _ (congrArg Prod.fst run)
  fault run := fault.fault (congrArg Prod.fst run)

/-- Of a step whose value does not matter later only the faults count. -/
theorem seq (h : Yields x (fun _ => True) bad) (next : ∀ a, Yields (f a) last bad) :
    Yields (x >>= f) last bad :=
  h.bind fun a _ => next a

theorem ofFault (fault : ∀ {s t : σ} {fault : Fault}, outcome x s = (.error fault, t) → bad fault) :
    Yields x (fun _ => True) bad :=
  ⟨fun _ => trivial, fault⟩

theorem liftFault {x : Except Fault α} (fault : FailsOnly bad x) :
    Yields (liftM x : ExceptT Fault (StateM σ) α) (fun _ => True) bad :=
  lift (fun _ _ => trivial) fault

theorem mono {good' : α → Prop} (h : Yields x good bad) (weaker : ∀ a, good a → good' a) :
    Yields x good' bad where
  value run := weaker _ (h.value run)
  fault run := h.fault run

theorem monoFault {worse : Fault → Prop} (h : Yields x good bad)
    (weaker : ∀ fault, bad fault → worse fault) : Yields x good worse where
  value run := h.value run
  fault run := weaker _ (h.fault run)

end Yields

/-! ## Every outcome under an invariant -/

/-- From states with the invariant, every value of the computation is `good` and leaves a state with
the invariant, and every fault is `bad`. -/
structure YieldsUnder (inv : σ → Prop) (x : ExceptT Fault (StateM σ) α) (good : α → Prop)
    (bad : Fault → Prop) : Prop where
  value : ∀ {s t : σ} {a : α}, inv s → outcome x s = (.ok a, t) → good a ∧ inv t
  fault : ∀ {s t : σ} {fault : Fault}, inv s → outcome x s = (.error fault, t) → bad fault

namespace YieldsUnder

variable {inv : σ → Prop} {x : ExceptT Fault (StateM σ) α}
  {f : α → ExceptT Fault (StateM σ) β} {good : α → Prop} {last : β → Prop} {bad : Fault → Prop}

theorem bind (h : YieldsUnder inv x good bad)
    (next : ∀ a, good a → YieldsUnder inv (f a) last bad) : YieldsUnder inv (x >>= f) last bad where
  value before run := by
    obtain ⟨a, r, first, rest⟩ := outcome_bind_eq_ok_iff.1 run
    obtain ⟨isGood, kept⟩ := h.value before first
    exact (next a isGood).value kept rest
  fault before run := by
    rcases outcome_bind_eq_error_iff.1 run with first | ⟨a, r, first, rest⟩
    · exact h.fault before first
    · obtain ⟨isGood, kept⟩ := h.value before first
      exact (next a isGood).fault kept rest

theorem pure {a : α} (h : good a) :
    YieldsUnder inv (Pure.pure a : ExceptT Fault (StateM σ) α) good bad where
  value before run := by
    cases run
    exact ⟨h, before⟩
  fault _ run := by simp at run

theorem lift {x : Except Fault α} (value : ∀ a, x = .ok a → good a) (fault : FailsOnly bad x) :
    YieldsUnder inv (liftM x : ExceptT Fault (StateM σ) α) good bad where
  value before run := by
    obtain ⟨answer, rfl⟩ := outcome_liftM_eq_ok_iff.1 run
    exact ⟨value _ answer, before⟩
  fault _ run := fault.fault (congrArg Prod.fst run)

end YieldsUnder

end

/-! ## Calls on behalf of an engine -/

namespace Engine

variable {S α β : Type}

theorem outcome_perform (calls : Calls S α) (e : Engine S) :
    outcome (perform calls) e =
      ((outcome calls e.history).1, { e with history := (outcome calls e.history).2 }) := rfl

theorem outcome_perform_eq_ok_iff {calls : Calls S α} {e e' : Engine S} {a : α} :
    outcome (perform calls) e = (.ok a, e') ↔
      ∃ history, outcome calls e.history = (.ok a, history) ∧ e' = { e with history } := by
  rw [outcome_perform]
  cases h : outcome calls e.history with
  | mk answer history => simp [and_assoc, eq_comm]

/-- Calls on behalf of an engine are made one after another. -/
theorem perform_bind (x : Calls S α) (f : α → Calls S β) :
    (perform (x >>= f) : Op S β) = perform x >>= fun a => perform (f a) := by
  funext e
  show outcome (perform (x >>= f)) e = outcome (perform x >>= fun a => perform (f a)) e
  rw [outcome_bind, outcome_perform, outcome_perform, outcome_bind]
  cases outcome x e.history with
  | mk answer history => cases answer <;> rfl

theorem perform_pure (a : α) : (perform (pure a : Calls S α) : Op S α) = pure a := rfl

theorem perform_liftM (x : Except Fault α) :
    (perform (liftM x : Calls S α) : Op S α) = liftM x := rfl

theorem yields_perform {calls : Calls S α} {good : α → Prop} {bad : Fault → Prop}
    (h : Yields calls good bad) : Yields (perform calls) good bad where
  value run := by
    obtain ⟨history, run, -⟩ := outcome_perform_eq_ok_iff.1 run
    exact h.value run
  fault {s _ fault} run := by
    have answer : (outcome calls s.history).1 = .error fault := congrArg Prod.fst run
    exact h.fault (Prod.ext answer rfl)

/-- Calls keep whatever only looks at the voices. -/
theorem yieldsUnder_perform {calls : Calls S α} {good : α → Prop} {bad : Fault → Prop}
    {inv : Option (Voices S) → Prop} (h : Yields calls good bad) :
    YieldsUnder (fun e => inv e.voices) (perform calls) good bad where
  value before run := by
    obtain ⟨history, -, rfl⟩ := outcome_perform_eq_ok_iff.1 run
    exact ⟨(yields_perform h).value run, before⟩
  fault _ run := (yields_perform h).fault run

end Engine

end KanaVoice
