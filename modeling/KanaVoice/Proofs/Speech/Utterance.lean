import Mathlib
import KanaVoice.Speech.AccentPhrase
set_option autoImplicit false

/-!
# The phrases of an utterance

The accent phrases of an utterance are its phrases in order.  Nothing is added to a phrase but its
kana and, at the end of a breath group that another one follows, a pause.
-/

namespace KanaVoice

theorem pauseAtEnd_cons (p : AccentPhrase) {rest : List AccentPhrase} (h : rest ≠ []) :
    pauseAtEnd (p :: rest) = p :: pauseAtEnd rest := by
  cases rest with
  | nil => contradiction
  | cons q rest => rfl

theorem mem_pauseAtEnd {phrases : List AccentPhrase} {q : AccentPhrase}
    (h : q ∈ pauseAtEnd phrases) :
    ∃ p ∈ phrases, q = p ∨ q = { p with pause := some .pause } := by
  induction phrases with
  | nil => cases h
  | cons p rest ih =>
    by_cases final : rest = []
    · subst final
      exact ⟨p, by simp, .inr (List.mem_singleton.1 h)⟩
    · rw [pauseAtEnd_cons p final] at h
      rcases List.mem_cons.1 h with rfl | later
      · exact ⟨q, by simp, .inl rfl⟩
      · obtain ⟨p', mem, same⟩ := ih later
        exact ⟨p', by simp [mem], same⟩

namespace Utterance

theorem toAccentPhrases_cons (group : List UtterancePhrase) {rest : Utterance} (h : rest ≠ []) :
    toAccentPhrases (group :: rest) =
      pauseAtEnd (group.map UtterancePhrase.toAccentPhrase) ++ toAccentPhrases rest := by
  cases rest with
  | nil => contradiction
  | cons next rest => rfl

/-- A phrase of the utterance, with a pause behind it or without. -/
theorem mem_toAccentPhrases {u : Utterance} {q : AccentPhrase} (h : q ∈ u.toAccentPhrases) :
    ∃ group ∈ u, ∃ p ∈ group,
      q = p.toAccentPhrase ∨ q = { p.toAccentPhrase with pause := some .pause } := by
  induction u with
  | nil => cases h
  | cons group rest ih =>
    by_cases final : rest = []
    · subst final
      obtain ⟨p, mem, rfl⟩ := List.mem_map.1 h
      exact ⟨group, by simp, p, mem, .inl rfl⟩
    · rw [toAccentPhrases_cons group final] at h
      rcases List.mem_append.1 h with here | later
      · obtain ⟨p, mem, same⟩ := mem_pauseAtEnd here
        obtain ⟨p', mem', rfl⟩ := List.mem_map.1 mem
        exact ⟨group, by simp, p', mem', same⟩
      · obtain ⟨group', mem, found⟩ := ih later
        exact ⟨group', by simp [mem], found⟩

/-- An utterance whose last breath group has phrases has phrases. -/
theorem toAccentPhrases_ne_nil {u : Utterance} (nonempty : u ≠ [])
    (h : ∀ group ∈ u.getLast?, group ≠ []) : u.toAccentPhrases ≠ [] := by
  induction u with
  | nil => contradiction
  | cons group rest ih =>
    by_cases final : rest = []
    · subst final
      exact mt List.map_eq_nil_iff.1 (h group rfl)
    · rw [toAccentPhrases_cons group final]
      rw [List.getLast?_cons_of_ne_nil final] at h
      exact List.append_ne_nil_of_right_ne_nil _ (ih final h)

/-- Nothing comes behind the phrases of the last breath group, so no pause does. -/
theorem pause_getLast?_toAccentPhrases {u : Utterance} (h : ∀ group ∈ u.getLast?, group ≠ []) :
    ∀ q ∈ u.toAccentPhrases.getLast?, q.pause = none := by
  induction u with
  | nil => exact nofun
  | cons group rest ih =>
    by_cases final : rest = []
    · subst final
      intro q last
      obtain ⟨p, -, rfl⟩ := List.mem_map.1 (List.mem_of_getLast? last)
      rfl
    · rw [List.getLast?_cons_of_ne_nil final] at h
      rw [toAccentPhrases_cons group final,
        List.getLast?_append_of_ne_nil _ (toAccentPhrases_ne_nil final h)]
      exact ih h

end Utterance

/-! ## Pauses between breath groups

The phrases of an utterance are walked group by group, and whether a pause comes behind a phrase
depends on two tests: its group is not the last one, and it is the last of its group.  A group
without phrases has no last phrase, so that it has no pause either, be it in the middle of the
utterance or at its end. -/

/-! ### Walks with an index -/

section

variable {α β γ : Type}

theorem forall₂_mapIdx {R : α → β → Prop} {f : Nat → α → β} (each : ∀ i a, R a (f i a))
    (l : List α) : List.Forall₂ R l (l.mapIdx f) := by
  induction l generalizing f with
  | nil => exact .nil
  | cons a rest ih =>
    rw [List.mapIdx_cons]
    exact .cons (each 0 a) (ih fun i => each (i + 1))

theorem flatMap_flatten_mapIdx (f : Nat → α → List β) (stream : β → List γ) (l : List α) :
    (l.mapIdx f).flatten.flatMap stream =
      (l.mapIdx fun i a => (f i a).flatMap stream).flatten := by
  induction l generalizing f with
  | nil => rfl
  | cons a rest ih =>
    rw [List.mapIdx_cons, List.mapIdx_cons, List.flatten_cons, List.flatten_cons,
      List.flatMap_append, ih]

end

/-! ### Breath groups -/

theorem pauseAtEnd_concat (init : List AccentPhrase) (last : AccentPhrase) :
    pauseAtEnd (init ++ [last]) = init ++ [{ last with pause := some .pause }] := by
  induction init with
  | nil => rfl
  | cons p rest ih =>
    rw [List.cons_append, pauseAtEnd_cons p (List.append_ne_nil_of_right_ne_nil _ (by simp)), ih,
      List.cons_append]

theorem pauseAtEnd_eq_mapIdx (phrases : List AccentPhrase) :
    pauseAtEnd phrases = phrases.mapIdx fun j p =>
      if j + 1 = phrases.length then { p with pause := some .pause } else p := by
  induction phrases with
  | nil => rfl
  | cons p rest ih =>
    by_cases final : rest = []
    · subst final
      rfl
    · rw [pauseAtEnd_cons p final, List.mapIdx_cons, ih]
      simp only [List.length_cons, Nat.add_right_cancel_iff, (List.length_pos_iff.2 final).ne,
        if_false]

namespace Utterance

/-- The accent phrases of a breath group, which a pause ends unless it is the last group. -/
def groupPhrases (isLast : Prop) [Decidable isLast] (group : List UtterancePhrase) :
    List AccentPhrase :=
  if isLast then group.map UtterancePhrase.toAccentPhrase
  else pauseAtEnd (group.map UtterancePhrase.toAccentPhrase)

theorem toAccentPhrases_eq_flatten (u : Utterance) :
    u.toAccentPhrases =
      (u.mapIdx fun i group => groupPhrases (i + 1 = u.length) group).flatten := by
  induction u with
  | nil => rfl
  | cons group rest ih =>
    by_cases final : rest = []
    · subst final
      exact (List.append_nil _).symm
    · rw [toAccentPhrases_cons group final, ih, List.mapIdx_cons, List.flatten_cons]
      simp only [groupPhrases, List.length_cons, Nat.add_right_cancel_iff,
        (List.length_pos_iff.2 final).ne, if_false]

variable (isLast : Prop) [Decidable isLast] (group : List UtterancePhrase)

/-- Both tests together decide where a pause comes. -/
theorem groupPhrases_eq_mapIdx :
    groupPhrases isLast group = group.mapIdx fun j p =>
      { p.toAccentPhrase with
        pause := if ¬ isLast ∧ j + 1 = group.length then some .pause else none } := by
  symm
  unfold groupPhrases
  split
  case isTrue last =>
    refine List.mapIdx_eq_iff.2 fun j => ?_
    simp only [last, not_true, false_and, if_false, List.getElem?_map]
    rfl
  case isFalse more =>
    refine List.mapIdx_eq_iff.2 fun j => ?_
    rw [pauseAtEnd_eq_mapIdx, List.getElem?_mapIdx, List.getElem?_map, Option.map_map,
      List.length_map]
    congr 1
    funext p
    by_cases final : j + 1 = group.length
    · rw [if_pos ⟨more, final⟩, Function.comp_apply, if_pos final]
    · rw [if_neg fun both => final both.2, Function.comp_apply, if_neg final]
      rfl

/-! ### Phonemes -/

/-- The phonemes of a phrase, each consonant before its vowel. -/
def phraseSymbols (p : UtterancePhrase) : List String :=
  p.moras.flatMap fun m => m.consonant.toList ++ [m.vowel]

theorem phonemeSymbols_flattenMoras (phrases : List AccentPhrase) :
    phonemeSymbols (flattenMoras phrases) = phrases.flatMap fun p => phonemeSymbols p.flatten :=
  List.flatMap_assoc

theorem phonemeSymbols_toMora (moras : List UtteranceMora) :
    phonemeSymbols (moras.map UtteranceMora.toMora) =
      moras.flatMap fun m => m.consonant.toList ++ [m.vowel] := by
  rw [phonemeSymbols, List.flatMap_map]
  rfl

theorem phonemeSymbols_toAccentPhrase (p : UtterancePhrase) :
    phonemeSymbols p.toAccentPhrase.flatten = phraseSymbols p := by
  have bare : p.toAccentPhrase.flatten = p.moras.map UtteranceMora.toMora := List.append_nil _
  rw [bare, phonemeSymbols_toMora]
  rfl

theorem phonemeSymbols_paused (p : UtterancePhrase) :
    phonemeSymbols { p.toAccentPhrase with pause := some .pause }.flatten =
      phraseSymbols p ++ ["pau"] := by
  have paused : { p.toAccentPhrase with pause := some .pause }.flatten =
      p.moras.map UtteranceMora.toMora ++ [.pause] := rfl
  rw [paused, phonemeSymbols, List.flatMap_append, ← phonemeSymbols, phonemeSymbols_toMora]
  rfl

theorem phonemeSymbols_groupPhrases :
    (groupPhrases isLast group).flatMap (fun p => phonemeSymbols p.flatten) =
      group.flatMap phraseSymbols ++ if group ≠ [] ∧ ¬ isLast then ["pau"] else [] := by
  have plain (group : List UtterancePhrase) :
      (group.map UtterancePhrase.toAccentPhrase).flatMap (fun p => phonemeSymbols p.flatten) =
        group.flatMap phraseSymbols := by
    rw [List.flatMap_map, funext phonemeSymbols_toAccentPhrase]
  unfold groupPhrases
  split
  case isTrue last =>
    rw [plain, if_neg fun both => both.2 last, List.append_nil]
  case isFalse more =>
    rcases List.eq_nil_or_concat' group with rfl | ⟨init, p, rfl⟩
    · rfl
    · rw [if_pos ⟨by simp, more⟩, List.map_append, List.map_singleton, pauseAtEnd_concat,
        List.flatMap_append, List.flatMap_append, plain, List.flatMap_singleton,
        List.flatMap_singleton, phonemeSymbols_paused, List.append_assoc]

/-! ### Utterances -/

/-- The accent phrase has the morae, the accent and the kind of the phrase. -/
structure Kept (p : UtterancePhrase) (q : AccentPhrase) : Prop where
  moras : q.moras = p.moras.map UtteranceMora.toMora
  accent : q.accent = p.accent
  isQuestion : q.isQuestion = p.isQuestion

/-- The accent phrases are those of the utterance, with pauses between breath groups. -/
structure Follows (u : Utterance) (phrases : List AccentPhrase) : Prop where
  /-- Each breath group that has phrases and is not the last one is followed by a pause. -/
  symbols : phonemeSymbols (flattenMoras phrases) = (u.mapIdx fun i group =>
    group.flatMap phraseSymbols ++ if group ≠ [] ∧ ¬ i + 1 = u.length then ["pau"] else []).flatten
  /-- Phrase by phrase, in order, nothing is lost -/
  kept : List.Forall₂ Kept u.flatten phrases
  /-- and nothing comes in. -/
  count : phrases.length = (u.map List.length).sum
  /-- A phrase has a pause if it is the last of its group and its group is not the last one. -/
  paused : phrases = (u.mapIdx fun i group => group.mapIdx fun j p =>
    { p.toAccentPhrase with
      pause :=
        if ¬ i + 1 = u.length ∧ j + 1 = group.length then some .pause else none }).flatten

theorem forall₂_kept_groupPhrases : List.Forall₂ Kept group (groupPhrases isLast group) := by
  rw [groupPhrases_eq_mapIdx]
  exact forall₂_mapIdx (fun _ _ => ⟨rfl, rfl, rfl⟩) group

theorem forall₂_kept_toAccentPhrases (u : Utterance) :
    List.Forall₂ Kept u.flatten u.toAccentPhrases := by
  rw [toAccentPhrases_eq_flatten]
  exact List.rel_flatten (forall₂_mapIdx (fun i group => forall₂_kept_groupPhrases _ group) u)

/-- The phrases of an utterance are spoken in order, with a pause exactly where one breath group
that has phrases is followed by another group. -/
theorem follows_toAccentPhrases (u : Utterance) : Follows u u.toAccentPhrases := by
  constructor
  case symbols =>
    rw [phonemeSymbols_flattenMoras, toAccentPhrases_eq_flatten, flatMap_flatten_mapIdx]
    simp only [phonemeSymbols_groupPhrases]
  case kept => exact forall₂_kept_toAccentPhrases u
  case count => rw [← (forall₂_kept_toAccentPhrases u).length_eq, List.length_flatten]
  case paused => simp only [toAccentPhrases_eq_flatten, groupPhrases_eq_mapIdx]

-- Groups without phrases have no pause, but a pause may come before them.
example : phonemeSymbols (flattenMoras (toAccentPhrases
    [[⟨[⟨some "k", "a"⟩], 1, false⟩], [], [⟨[⟨none, "i"⟩], 1, true⟩], []])) =
      ["k", "a", "pau", "i", "pau"] := rfl

end Utterance

end KanaVoice
