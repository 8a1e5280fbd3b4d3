import Mathlib
import KanaVoice.Speech.AccentPhrase
set_option autoImplicit false

/-!
# Segments of the accent stream

A phrase with a mora or a pause has a segment of the accent stream to itself, and only the last
symbol of the segment is an end.  So cutting the stream behind each end gives the segments back, and
a phrase without morae and pause leaves no trace.  The stream may as well be grown phrase by phrase
on one list whose last symbol is overwritten each time: what is overwritten is always the phrase's
own.
-/

namespace KanaVoice

/-! ## Overwriting and cutting -/

section

variable {α : Type}

/-- The list with its last element, if it has one, overwritten. -/
def overwriteLast (last : α) : List α → List α
  | [] => []
  | [_] => [last]
  | a :: b :: rest => a :: overwriteLast last (b :: rest)

/-- The pieces of a list that is cut behind each element that ends a piece. -/
def cutBehind (ends : α → Bool) : List α → List (List α)
  | [] => []
  | a :: rest =>
    if ends a then [a] :: cutBehind ends rest
    else
      match cutBehind ends rest with
      | [] => [[a]]
      | piece :: more => (a :: piece) :: more

/-- The last element of the piece ends it, and no other does. -/
def IsClosed (ends : α → Bool) (piece : List α) : Prop :=
  ∃ init last, piece = init ++ [last] ∧ ends last = true ∧ ∀ a ∈ init, ends a = false

theorem overwriteLast_concat (last a : α) (init : List α) :
    overwriteLast last (init ++ [a]) = init ++ [last] := by
  induction init with
  | nil => rfl
  | cons b rest ih =>
    rw [List.cons_append, List.cons_append, ← ih]
    cases rest <;> rfl

theorem overwriteLast_append (last : α) (before : List α) {l : List α} (h : l ≠ []) :
    overwriteLast last (before ++ l) = before ++ overwriteLast last l := by
  obtain ⟨init, a, rfl⟩ := List.eq_nil_or_concat l |>.resolve_left h
  rw [List.concat_eq_append, ← List.append_assoc, overwriteLast_concat, overwriteLast_concat,
    List.append_assoc]

theorem cutBehind_append {ends : α → Bool} {init : List α} {last : α} (rest : List α)
    (atEnd : ends last = true) (inside : ∀ a ∈ init, ends a = false) :
    cutBehind ends (init ++ [last] ++ rest) = (init ++ [last]) :: cutBehind ends rest := by
  induction init with
  | nil => simp [cutBehind, atEnd]
  | cons a init ih =>
    have each := List.forall_mem_cons.1 inside
    rw [List.cons_append, List.cons_append, cutBehind, ih each.2, each.1]
    rfl

/-- Cutting finds closed pieces again; of the empty ones there is no trace. -/
theorem cutBehind_flatten {ends : α → Bool} {pieces : List (List α)}
    (closed : ∀ piece ∈ pieces, piece = [] ∨ IsClosed ends piece) :
    cutBehind ends pieces.flatten = pieces.filter fun piece => !piece.isEmpty := by
  induction pieces with
  | nil => rfl
  | cons piece rest ih =>
    have each := List.forall_mem_cons.1 closed
    rw [List.flatten_cons]
    rcases each.1 with rfl | ⟨init, last, rfl, atEnd, inside⟩
    · rw [List.nil_append, ih each.2]
      rfl
    · rw [cutBehind_append _ atEnd inside, ih each.2, List.filter_cons_of_pos (by simp)]

end

/-! ## The segment of a phrase -/

/-- The symbols that end the segment of a phrase. -/
def isEndSymbol (symbol : String) : Bool := symbol == "?" || symbol == "#"

namespace AccentPhrase

/-- The symbol at the vowel of the mora at `index`, counted from zero. -/
def vowelSymbol (p : AccentPhrase) (index : Nat) : String :=
  if index + 1 = p.accent ∧ p.accent ≠ p.moras.length then "]"
  else if index = 0 then "["
  else "_"

/-- The symbols of morae of which the first is at `index`. -/
def moraSymbols (p : AccentPhrase) : Nat → List Mora → List String
  | _, [] => []
  | index, m :: rest =>
    (if m.consonant.isSome then ["_"] else []) ++ p.vowelSymbol index ::
      p.moraSymbols (index + 1) rest

/-- The symbols of the phrase's morae and of its pause, before the end is written. -/
def openSymbols (p : AccentPhrase) : List String :=
  p.moraSymbols 0 p.moras ++ (if p.pause.isSome then ["_"] else [])

/-- The symbol at the end of the phrase. -/
def endSymbol (p : AccentPhrase) : String := if p.isQuestion then "?" else "#"

/-- The phrase's part of the accent stream. -/
def segment (p : AccentPhrase) : List String := overwriteLast p.endSymbol p.openSymbols

/-- A stream grown by the phrase, whose end is written over the last symbol if there is a new one. -/
def extend (stream : List String) (p : AccentPhrase) : List String :=
  let grown := stream ++ p.openSymbols
  if stream.length < grown.length then overwriteLast p.endSymbol grown else grown

/-! ### Symbols before the end is written -/

theorem symbol_vowelMark (p : AccentPhrase) (index : Nat) :
    (p.vowelMark index).symbol = p.vowelSymbol index := by
  unfold vowelMark vowelSymbol
  by_cases fall : index + 1 = p.accent ∧ p.accent ≠ p.moras.length
  · rw [if_pos fall, if_pos ⟨fall.1, fall.2.symm⟩]
    rfl
  · rw [if_neg fall, if_neg fun h => fall ⟨h.1, h.2.symm⟩]
    split
    · rfl
    · rfl

theorem map_symbol_moraMarks (p : AccentPhrase) (index : Nat) (moras : List Mora) :
    ((moras.mapIdx fun i m => p.moraMarks m (index + i)).flatten).map AccentMark.symbol =
      p.moraSymbols index moras := by
  induction moras generalizing index with
  | nil => rfl
  | cons m rest ih =>
    have later : (rest.mapIdx fun i m => p.moraMarks m (index + (i + 1))) =
        rest.mapIdx fun i m => p.moraMarks m (index + 1 + i) := by
      congr 1
      funext i m
      rw [Nat.add_right_comm, Nat.add_assoc]
    have hold : AccentMark.hold.symbol = "_" := rfl
    rw [List.mapIdx_cons, List.flatten_cons, List.map_append, later, ih, moraSymbols, moraMarks]
    cases m.consonant <;> simp [hold, symbol_vowelMark]

theorem map_symbol_openMarks (p : AccentPhrase) :
    p.openMarks.map AccentMark.symbol = p.openSymbols := by
  have moras := p.map_symbol_moraMarks 0 p.moras
  simp only [Nat.zero_add] at moras
  rw [openMarks, openSymbols, List.map_append, moras]
  cases p.pause <;> rfl

theorem symbol_endMark (p : AccentPhrase) : p.endMark.symbol = p.endSymbol := by
  unfold endMark endSymbol
  split
  · rfl
  · rfl

theorem map_symbol_marks (p : AccentPhrase) : p.marks.map AccentMark.symbol = p.segment := by
  rw [segment, ← map_symbol_openMarks, marks]
  rcases List.eq_nil_or_concat p.openMarks with none | ⟨init, last, same⟩
  · rw [none]
    rfl
  · rw [same, List.concat_eq_append]
    simp [overwriteLast_concat, symbol_endMark]

theorem moraSymbols_append (p : AccentPhrase) (index : Nat) (l r : List Mora) :
    p.moraSymbols index (l ++ r) = p.moraSymbols index l ++ p.moraSymbols (index + l.length) r := by
  induction l generalizing index with
  | nil => rfl
  | cons m rest ih =>
    rw [List.cons_append, moraSymbols, moraSymbols, ih, List.append_assoc, List.cons_append,
      List.length_cons, Nat.add_assoc, Nat.add_comm 1]

theorem isEndSymbol_vowelSymbol (p : AccentPhrase) (index : Nat) :
    isEndSymbol (p.vowelSymbol index) = false := by
  unfold vowelSymbol
  split
  · rfl
  · split
    · rfl
    · rfl

theorem isEndSymbol_moraSymbols (p : AccentPhrase) (index : Nat) (moras : List Mora) :
    ∀ s ∈ p.moraSymbols index moras, isEndSymbol s = false := by
  induction moras generalizing index with
  | nil => exact nofun
  | cons m rest ih =>
    rw [moraSymbols]
    refine List.forall_mem_append.2 ⟨?_, List.forall_mem_cons.2 ⟨?_, ih (index + 1)⟩⟩
    · split
      · exact List.forall_mem_singleton.2 rfl
      · exact nofun
    · exact p.isEndSymbol_vowelSymbol index

theorem isEndSymbol_openSymbols (p : AccentPhrase) :
    ∀ s ∈ p.openSymbols, isEndSymbol s = false := by
  refine List.forall_mem_append.2 ⟨p.isEndSymbol_moraSymbols 0 p.moras, ?_⟩
  split
  · exact List.forall_mem_singleton.2 rfl
  · exact nofun

/-- The last symbol is no fall, since the pitch does not fall behind the last mora. -/
theorem openSymbols_eq_nil_or_concat (p : AccentPhrase) :
    p.openSymbols = [] ∧ p.moras = [] ∧ p.pause = none ∨
    ∃ init last, p.openSymbols = init ++ [last] ∧ last ≠ "]" ∧ ¬ (p.moras = [] ∧ p.pause = none) := by
  unfold openSymbols
  cases pause : p.pause with
  | some m => exact .inr ⟨p.moraSymbols 0 p.moras, "_", rfl, by decide, nofun⟩
  | none =>
    rcases List.eq_nil_or_concat p.moras with none | ⟨init, m, same⟩
    · rw [none]
      exact .inl ⟨rfl, rfl, rfl⟩
    · right
      rw [List.concat_eq_append] at same
      have count : p.moras.length = init.length + 1 := by rw [same, List.length_append]; rfl
      have last : p.vowelSymbol init.length ≠ "]" := by
        unfold vowelSymbol
        rw [if_neg (by omega)]
        split
        · decide
        · decide
      refine ⟨p.moraSymbols 0 init ++ (if m.consonant.isSome then ["_"] else []),
        p.vowelSymbol init.length, ?_, last, by simp [same]⟩
      conv_lhs => rw [same]
      simp [moraSymbols_append, moraSymbols]

theorem count_fall_moraSymbols (p : AccentPhrase) (index : Nat) (moras : List Mora) :
    (p.moraSymbols index moras).count "]" =
      if index < p.accent ∧ p.accent ≤ index + moras.length ∧ p.accent ≠ p.moras.length then 1
      else 0 := by
  induction moras generalizing index with
  | nil => rw [if_neg (by simp; omega)]; rfl
  | cons m rest ih =>
    have consonant : (if m.consonant.isSome then ["_"] else []).count "]" = 0 := by
      split
      · rfl
      · rfl
    have vowel : (p.vowelSymbol index == "]") =
        decide (index + 1 = p.accent ∧ p.accent ≠ p.moras.length) := by
      unfold vowelSymbol
      split
      case isTrue here => rw [decide_eq_true here]; rfl
      case isFalse other =>
        rw [decide_eq_false other]
        split
        · rfl
        · rfl
    rw [moraSymbols, List.count_append, consonant, List.count_cons, ih, vowel, List.length_cons]
    split
    case isTrue later => rw [if_neg (by simp; omega), if_pos (by omega)]
    case isFalse =>
      split
      case isTrue here => rw [if_pos (by simp at here; omega)]
      case isFalse other => rw [if_neg (by simp at other; omega)]

/-! ### The whole segment -/

theorem segment_eq_nil_iff (p : AccentPhrase) :
    p.segment = [] ↔ p.moras = [] ∧ p.pause = none := by
  unfold segment
  rcases p.openSymbols_eq_nil_or_concat with ⟨none, empty⟩ | ⟨init, last, same, -, some⟩
  · rw [none]
    exact iff_of_true rfl empty
  · rw [same, overwriteLast_concat]
    exact iff_of_false (by simp) some

theorem segment_eq_nil_or_closed (p : AccentPhrase) :
    p.segment = [] ∨
    ∃ init, p.segment = init ++ [p.endSymbol] ∧ ∀ s ∈ init, isEndSymbol s = false := by
  unfold segment
  have inside := p.isEndSymbol_openSymbols
  rcases p.openSymbols_eq_nil_or_concat with ⟨none, -⟩ | ⟨init, last, same, -⟩
  · rw [none]
    exact .inl rfl
  · rw [same] at inside ⊢
    exact .inr ⟨init, overwriteLast_concat _ _ _, (List.forall_mem_append.1 inside).1⟩

theorem isEndSymbol_endSymbol (p : AccentPhrase) : isEndSymbol p.endSymbol = true := by
  unfold endSymbol
  split
  · rfl
  · rfl

/-- The end is never written over the fall. -/
theorem count_fall_segment (p : AccentPhrase) :
    p.segment.count "]" = if 1 ≤ p.accent ∧ p.accent < p.moras.length then 1 else 0 := by
  have moras := p.count_fall_moraSymbols 0 p.moras
  have pause : (if p.pause.isSome then ["_"] else []).count "]" = 0 := by
    split
    · rfl
    · rfl
  have kept : p.segment.count "]" = p.openSymbols.count "]" := by
    unfold segment
    rcases p.openSymbols_eq_nil_or_concat with ⟨none, -⟩ | ⟨init, last, same, noFall, -⟩
    · rw [none]
      rfl
    · have final : p.endSymbol ≠ "]" := by
        unfold endSymbol
        split
        · decide
        · decide
      rw [same, overwriteLast_concat, List.count_append, List.count_append,
        List.count_singleton, List.count_singleton, beq_eq_false_iff_ne.2 final,
        beq_eq_false_iff_ne.2 noFall]
  rw [kept, openSymbols, List.count_append, pause, moras, Nat.add_zero]
  congr 1
  simp only [eq_iff_iff]
  omega

/-- Growing a stream by a phrase puts the phrase's segment behind it. -/
theorem extend_eq_append (stream : List String) (p : AccentPhrase) :
    p.extend stream = stream ++ p.segment := by
  unfold extend segment
  simp only [List.length_append]
  by_cases empty : p.openSymbols = []
  · rw [empty, if_neg (by simp)]
    rfl
  · have some := List.length_pos_iff.2 empty
    rw [if_pos (by omega), overwriteLast_append _ _ empty]

end AccentPhrase

/-! ## The stream -/

/-- The stream consists of the segments of the phrases. -/
structure IsAccentStream (phrases : List AccentPhrase) (stream : List String) : Prop where
  /-- Each phrase has a segment of its own, in order. -/
  segments : stream = phrases.flatMap AccentPhrase.segment
  /-- The stream can be grown on one list, phrase by phrase. -/
  grown : stream = phrases.foldl (fun stream p => p.extend stream) []
  /-- An end stands at the last place of a segment and nowhere else. -/
  closed : ∀ p ∈ phrases, p.segment = [] ∨
    ∃ init, p.segment = init ++ [p.endSymbol] ∧ ∀ s ∈ init, isEndSymbol s = false
  /-- Cutting behind each end gives back the segments that are not empty. -/
  recovered : cutBehind isEndSymbol stream =
    (phrases.map AccentPhrase.segment).filter fun segment => !segment.isEmpty
  /-- A segment is empty for want of morae and pause only. -/
  empty : ∀ p ∈ phrases, p.segment = [] ↔ p.moras = [] ∧ p.pause = none
  /-- A phrase without morae and pause leaves no trace. -/
  traceless : ∀ before p after, phrases = before ++ p :: after → p.moras = [] → p.pause = none →
    stream = accentSymbols (before ++ after)
  /-- A segment has a fall if the accented mora is there and is not the last. -/
  falls : ∀ p ∈ phrases,
    p.segment.count "]" = if 1 ≤ p.accent ∧ p.accent < p.moras.length then 1 else 0

theorem accentSymbols_eq_flatMap (phrases : List AccentPhrase) :
    accentSymbols phrases = phrases.flatMap AccentPhrase.segment := by
  rw [accentSymbols, accentMarks, List.map_flatMap, funext AccentPhrase.map_symbol_marks]

theorem foldl_extend (stream : List String) (phrases : List AccentPhrase) :
    phrases.foldl (fun stream p => p.extend stream) stream =
      stream ++ phrases.flatMap AccentPhrase.segment := by
  induction phrases generalizing stream with
  | nil => rw [List.foldl_nil, List.flatMap_nil, List.append_nil]
  | cons p rest ih =>
    rw [List.foldl_cons, AccentPhrase.extend_eq_append, ih, List.flatMap_cons, List.append_assoc]

/-- The accent symbols of phrases consist of a segment for each phrase. -/
theorem isAccentStream_accentSymbols (phrases : List AccentPhrase) :
    IsAccentStream phrases (accentSymbols phrases) where
  segments := accentSymbols_eq_flatMap phrases
  grown := by rw [accentSymbols_eq_flatMap, foldl_extend, List.nil_append]
  closed := fun p _ => p.segment_eq_nil_or_closed
  recovered := by
    rw [accentSymbols_eq_flatMap, List.flatMap_def, cutBehind_flatten]
    intro piece mem
    obtain ⟨p, -, rfl⟩ := List.mem_map.1 mem
    rcases p.segment_eq_nil_or_closed with empty | ⟨init, same, inside⟩
    · exact .inl empty
    · exact .inr ⟨init, p.endSymbol, same, p.isEndSymbol_endSymbol, inside⟩
  empty := fun p _ => p.segment_eq_nil_iff
  traceless := by
    rintro before p after rfl moras pause
    have none : p.segment = [] := p.segment_eq_nil_iff.2 ⟨moras, pause⟩
    rw [accentSymbols_eq_flatMap, accentSymbols_eq_flatMap, List.flatMap_append,
      List.flatMap_cons, none, List.nil_append, List.flatMap_append]
  falls := fun p _ => p.count_fall_segment

end KanaVoice
