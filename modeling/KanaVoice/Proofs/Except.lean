import Mathlib
set_option autoImplicit false

/-!
# Steps that may fail

When a sequence of steps succeeds, each of its steps did, with the values in between.  When checks
are made in order, the fault of the first that does not pass is that of all.
-/

namespace KanaVoice

section

variable {ε α β : Type}

theorem except_bind_eq_ok_iff {x : Except ε α} {f : α → Except ε β} {b : β} :
    (x >>= f) = .ok b ↔ ∃ a, x = .ok a ∧ f a = .ok b := by
  cases x <;> simp [bind, Except.bind]

theorem except_bind_eq_error_iff {x : Except ε α} {f : α → Except ε β} {e : ε} :
    (x >>= f) = .error e ↔ x = .error e ∨ ∃ a, x = .ok a ∧ f a = .error e := by
  cases x <;> simp [bind, Except.bind]

@[simp] theorem except_ok_bind (a : α) (f : α → Except ε β) : (Except.ok a >>= f) = f a := rfl

theorem mapError_eq_ok_iff {ε' : Type} {f : ε → ε'} {x : Except ε α} {a : α} :
    x.mapError f = .ok a ↔ x = .ok a := by
  cases x <;> simp [Except.mapError]

theorem mapError_eq_error_iff {ε' : Type} {f : ε → ε'} {x : Except ε α} {e : ε'} :
    x.mapError f = .error e ↔ ∃ cause, x = .error cause ∧ e = f cause := by
  cases x <;> simp [Except.mapError, eq_comm]

theorem mapM_cons_eq_ok_iff {f : α → Except ε β} {a : α} {rest : List α} {r : List β} :
    (a :: rest).mapM f = .ok r ↔ ∃ b s, f a = .ok b ∧ rest.mapM f = .ok s ∧ r = b :: s := by
  rw [List.mapM_cons, except_bind_eq_ok_iff]
  constructor
  · rintro ⟨b, head, more⟩
    obtain ⟨s, tail, ⟨⟩⟩ := except_bind_eq_ok_iff.1 more
    exact ⟨b, s, head, tail, rfl⟩
  · rintro ⟨b, s, head, tail, rfl⟩
    exact ⟨b, head, except_bind_eq_ok_iff.2 ⟨s, tail, rfl⟩⟩

theorem mapM_congr {f g : α → Except ε β} {l : List α} (h : ∀ a ∈ l, f a = g a) :
    l.mapM f = l.mapM g := by
  induction l with
  | nil => rfl
  | cons a rest ih =>
    obtain ⟨head, tail⟩ := List.forall_mem_cons.1 h
    rw [List.mapM_cons, List.mapM_cons, head, ih tail]

/-- A list of steps succeeds when each of them does. -/
theorem mapM_eq_ok_iff {f : α → Except ε β} {l : List α} {r : List β} :
    l.mapM f = .ok r ↔ l.map f = r.map .ok := by
  induction l generalizing r with
  | nil => cases r <;> simp [pure, Except.pure]
  | cons a rest ih =>
    rw [mapM_cons_eq_ok_iff]
    constructor
    · rintro ⟨b, s, head, tail, rfl⟩
      rw [List.map_cons, List.map_cons, head, ih.1 tail]
    · intro h
      cases r with
      | nil => simp at h
      | cons b s =>
        rw [List.map_cons, List.map_cons, List.cons.injEq] at h
        exact ⟨b, s, h.1, ih.2 h.2, rfl⟩

theorem length_eq_of_mapM_eq_ok {f : α → Except ε β} {l : List α} {r : List β}
    (h : l.mapM f = .ok r) : r.length = l.length := by
  simpa using (congrArg List.length (mapM_eq_ok_iff.1 h)).symm

theorem exists_of_mem_mapM {f : α → Except ε β} {l : List α} {r : List β} {b : β}
    (h : l.mapM f = .ok r) (mem : b ∈ r) : ∃ a ∈ l, f a = .ok b := by
  have answered : Except.ok b ∈ l.map f := by
    rw [mapM_eq_ok_iff.1 h]
    exact List.mem_map_of_mem mem
  exact List.mem_map.1 answered

theorem forall₂_of_mapM {f : α → Except ε β} {l : List α} {r : List β}
    (h : l.mapM f = .ok r) : List.Forall₂ (fun a b => f a = .ok b) l r := by
  have same : List.Forall₂ Eq (l.map f) (r.map .ok) := by
    rw [mapM_eq_ok_iff.1 h]
    exact List.forall₂_refl _
  rwa [List.forall₂_map_left_iff, List.forall₂_map_right_iff] at same

/-! ## Faults of a sequence -/

/-- Every fault of the steps is `bad`. -/
structure FailsOnly (bad : ε → Prop) (x : Except ε α) : Prop where
  fault : ∀ {e : ε}, x = .error e → bad e

namespace FailsOnly

variable {bad : ε → Prop} {x : Except ε α} {f : α → Except ε β}

theorem ok (a : α) : FailsOnly bad (.ok a : Except ε α) := ⟨nofun⟩

theorem error {e : ε} (h : bad e) : FailsOnly bad (.error e : Except ε α) where
  fault same := by
    cases same
    exact h

theorem bind (h : FailsOnly bad x) (next : ∀ a, x = .ok a → FailsOnly bad (f a)) :
    FailsOnly bad (x >>= f) where
  fault fails := by
    rcases except_bind_eq_error_iff.1 fails with first | ⟨a, first, rest⟩
    · exact h.fault first
    · exact (next a first).fault rest

theorem mono {worse : ε → Prop} (h : FailsOnly bad x) (weaker : ∀ e, bad e → worse e) :
    FailsOnly worse x where
  fault fails := weaker _ (h.fault fails)

theorem mapError {ε' : Type} {cause : ε' → ε} (x : Except ε' α) (h : ∀ e, bad (cause e)) :
    FailsOnly bad (x.mapError cause) := by
  cases x with
  | ok a => exact ok a
  | error e => exact error (h e)

theorem mapM {l : List α} (h : ∀ a ∈ l, FailsOnly bad (f a)) : FailsOnly bad (l.mapM f) := by
  induction l with
  | nil => exact ok _
  | cons a rest ih =>
    rw [List.mapM_cons]
    refine bind (h a (by simp)) fun b _ => bind (ih fun c mem => h c (by simp [mem])) ?_
    exact fun s _ => ok _

end FailsOnly

end

/-! ## The first of several faults

Checks that are made in order end with the fault of the first that does not pass.  Which one that is
does not depend on what the later ones would have said, however many of them fail as well. -/

variable {α β ε : Type} {check : α → Except ε Unit} {l : List α} {fault : ε}

/-- Of the checks in a list the first that does not pass has this fault. -/
inductive FailsFirst (check : α → Except ε Unit) : List α → ε → Prop
  | here {a : α} {rest : List α} {fault : ε} :
    check a = .error fault → FailsFirst check (a :: rest) fault
  | later {a : α} {rest : List α} {fault : ε} :
    check a = .ok () → FailsFirst check rest fault → FailsFirst check (a :: rest) fault

/-- Every check in a list passes. -/
def Passes (check : α → Except ε Unit) (l : List α) : Prop := ∀ a ∈ l, check a = .ok ()

/-- Either every check passes or one is the first that does not. -/
theorem passes_or_failsFirst (check : α → Except ε Unit) (l : List α) :
    Passes check l ∨ ∃ fault, FailsFirst check l fault := by
  induction l with
  | nil => exact .inl nofun
  | cons a rest ih =>
    cases answer : check a with
    | error fault => exact .inr ⟨fault, .here answer⟩
    | ok =>
      rcases ih with pass | ⟨fault, fails⟩
      · exact .inl (List.forall_mem_cons.2 ⟨answer, pass⟩)
      · exact .inr ⟨fault, .later answer fails⟩

/-- All checks before the first that does not pass have passed. -/
theorem failsFirst_iff : FailsFirst check l fault ↔
    ∃ before a after, l = before ++ a :: after ∧ Passes check before ∧ check a = .error fault := by
  constructor
  · intro fails
    induction fails with
    | here fails => exact ⟨[], _, _, rfl, nofun, fails⟩
    | later pass _ ih =>
      obtain ⟨before, a, after, rfl, earlier, isFault⟩ := ih
      exact ⟨_ :: before, a, after, rfl, List.forall_mem_cons.2 ⟨pass, earlier⟩, isFault⟩
  · rintro ⟨before, a, after, rfl, earlier, isFault⟩
    induction before with
    | nil => exact .here isFault
    | cons first rest ih =>
      obtain ⟨pass, others⟩ := List.forall_mem_cons.1 earlier
      exact .later pass (ih others)

/-- Making the checks one after another finds the first fault. -/
theorem forM_eq_error_iff : forM l check = .error fault ↔ FailsFirst check l fault := by
  induction l with
  | nil =>
    constructor
    · intro fails
      cases fails
    · intro fails
      cases fails
  | cons a rest ih =>
    rw [List.forM_cons, except_bind_eq_error_iff, ih]
    constructor
    · rintro (first | ⟨⟨⟩, pass, fails⟩)
      · exact .here first
      · exact .later pass fails
    · intro fails
      cases fails with
      | here first => exact .inl first
      | later pass fails => exact .inr ⟨(), pass, fails⟩

theorem forM_eq_ok_iff : forM l check = .ok () ↔ Passes check l := by
  induction l with
  | nil => exact ⟨fun _ => nofun, fun _ => rfl⟩
  | cons a rest ih =>
    rw [List.forM_cons, except_bind_eq_ok_iff, ih]
    constructor
    · rintro ⟨⟨⟩, pass, others⟩
      exact List.forall_mem_cons.2 ⟨pass, others⟩
    · intro all
      exact ⟨(), List.forall_mem_cons.1 all⟩

/-- Lists of checks are made one after another. -/
theorem forM_flatMap (checks : β → List α) (names : List β) :
    forM (names.flatMap checks) check = forM names fun name => forM (checks name) check := by
  induction names with
  | nil => rfl
  | cons name rest ih => rw [List.flatMap_cons, List.forM_append, List.forM_cons, ih]

/-! ### Steps as checks -/

/-- The step as a check: whether it succeeds, without its value. -/
def asCheck (x : Except ε α) : Except ε Unit := x.map fun _ => ()

theorem asCheck_eq_error_iff {x : Except ε α} : asCheck x = .error fault ↔ x = .error fault := by
  cases x <;> simp [asCheck, Except.map]

theorem asCheck_eq_ok_iff {x : Except ε α} : asCheck x = .ok () ↔ ∃ a, x = .ok a := by
  cases x <;> simp [asCheck, Except.map]

theorem asCheck_bind (x : Except ε α) (f : α → Except ε β) :
    asCheck (x >>= f) = x >>= fun a => asCheck (f a) := by
  cases x <;> rfl

/-- A step whose value the next one does not look at. -/
theorem asCheck_seq {x : Except ε α} {f : α → Except ε β} {next : Except ε Unit}
    (h : ∀ a, x = .ok a → asCheck (f a) = next) :
    asCheck (x >>= f) = asCheck x >>= fun _ => next := by
  rw [asCheck_bind]
  cases x with
  | error fault => rfl
  | ok a => exact h a rfl

/-- A step after which nothing can fail any more. -/
theorem asCheck_finish (x : Except ε α) (f : α → β) :
    asCheck (x >>= fun a => .ok (f a)) = asCheck x := by
  cases x <;> rfl

/-- Taking a step for each member of a list succeeds as the checks do. -/
theorem asCheck_mapM (f : α → Except ε β) (l : List α) :
    asCheck (l.mapM f) = forM l fun a => asCheck (f a) := by
  induction l with
  | nil => rfl
  | cons a rest ih =>
    rw [List.mapM_cons, List.forM_cons, ← ih]
    exact asCheck_seq fun b _ => asCheck_finish _ _

end KanaVoice
