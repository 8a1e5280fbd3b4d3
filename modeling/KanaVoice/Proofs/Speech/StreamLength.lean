import Mathlib
import KanaVoice.Speech.Intonation
set_option autoImplicit false

/-!
# Streams of one length

Phrases are traversed in several ways: for their phonemes, for their accent marks, for the count
of their positions, and for the contour.  As long as no pause carries a consonant, all of these
have one entry for each phoneme position.
-/

namespace KanaVoice

/-- The phrase's pause, if it has one, is a vowel alone. -/
def AccentPhrase.HasBarePause (p : AccentPhrase) : Prop := ∀ m ∈ p.pause, m.consonant = none

/-! ## Morae -/

namespace Mora

theorem length_shiftedPitches (shift : Float32) (m : Mora) :
    (m.shiftedPitches shift).length = m.phonemeCount := by
  rw [shiftedPitches, List.length_map, length_phonemes]

/-- All phonemes of a mora have its pitch. -/
theorem getElem?_shiftedPitches (shift : Float32) {m : Mora} {k : Nat} (own : k < m.phonemeCount) :
    (m.shiftedPitches shift)[k]? = some (m.pitch * shift) := by
  rw [← m.length_phonemes] at own
  rw [shiftedPitches, List.getElem?_map, List.getElem?_eq_getElem own, Option.map_some]

theorem length_scaledLengths (divisor : Float32) (m : Mora) :
    (m.scaledLengths divisor).length = m.phonemeCount := by
  cases h : m.consonant <;> simp [scaledLengths, phonemeCount, h]

theorem phonemeCount_pos (m : Mora) : 0 < m.phonemeCount := by
  unfold phonemeCount
  split <;> omega

theorem phonemeCount_of_bare {m : Mora} (h : m.consonant = none) : m.phonemeCount = 1 := by
  simp [phonemeCount, h]

theorem phonemeCount_of_consonant {m : Mora} {c : String} (h : m.consonant = some c) :
    m.phonemeCount = 2 := by
  simp [phonemeCount, h]

end Mora

theorem length_phonemeSymbols (moras : List Mora) :
    (phonemeSymbols moras).length = (moras.map Mora.phonemeCount).sum := by
  rw [phonemeSymbols, List.length_flatMap, funext Mora.length_phonemes]

/-- Behind the phonemes of the morae before it, a stream of the morae goes on with what it has for
the mora. -/
theorem getElem?_flatMap_moras {α : Type} {stream : Mora → List α}
    (lengths : ∀ m, (stream m).length = m.phonemeCount) (before after : List Mora) {m : Mora}
    {k : Nat} (own : k < m.phonemeCount) :
    ((before ++ m :: after).flatMap stream)[(before.map Mora.phonemeCount).sum + k]? =
      (stream m)[k]? := by
  have first : (before.flatMap stream).length = (before.map Mora.phonemeCount).sum := by
    rw [List.length_flatMap, funext lengths]
  rw [List.flatMap_append, List.flatMap_cons, ← first, List.getElem?_append_right (by omega),
    Nat.add_sub_cancel_left, List.getElem?_append_left (by rwa [lengths])]

/-! ## Phrases -/

theorem AccentPhrase.phonemeCount_eq_sum (p : AccentPhrase) :
    p.phonemeCount =
      (p.moras.map Mora.phonemeCount).sum + (p.pause.toList.map Mora.phonemeCount).sum := by
  have whole : p.phonemeCount = (p.flatten.map Mora.phonemeCount).sum := rfl
  rw [whole, flatten, List.map_append, List.sum_append]

theorem phonemeTotal_eq_sum (phrases : List AccentPhrase) :
    phonemeTotal phrases = (phrases.map AccentPhrase.phonemeCount).sum := rfl

theorem flattenMoras_cons (p : AccentPhrase) (rest : List AccentPhrase) :
    flattenMoras (p :: rest) = p.flatten ++ flattenMoras rest :=
  List.flatMap_cons

theorem sum_phonemeCount_flattenMoras (phrases : List AccentPhrase) :
    ((flattenMoras phrases).map Mora.phonemeCount).sum = phonemeTotal phrases := by
  induction phrases with
  | nil => rfl
  | cons p rest ih =>
    rw [flattenMoras_cons, List.map_append, List.sum_append, ih]
    rfl

theorem length_spreadPitches (scale : Float32) (pitches : List Float32) :
    (spreadPitches scale pitches).length = pitches.length := by
  simp only [spreadPitches]
  split
  · exact List.length_map _
  · rfl

theorem length_pitches (moras : List Mora) (scales : ContourScales) :
    (contour moras scales).pitches.length = (moras.map Mora.phonemeCount).sum := by
  rw [contour, length_spreadPitches, List.length_flatMap, funext (Mora.length_shiftedPitches _)]

theorem length_durations (moras : List Mora) (scales : ContourScales) :
    (contour moras scales).durations.length = (moras.map Mora.phonemeCount).sum := by
  rw [contour, List.length_flatMap, funext (Mora.length_scaledLengths _)]

theorem length_pitches_contour (phrases : List AccentPhrase) (scales : ContourScales) :
    (contour (flattenMoras phrases) scales).pitches.length = phonemeTotal phrases := by
  rw [length_pitches, sum_phonemeCount_flattenMoras]

theorem length_durations_contour (phrases : List AccentPhrase) (scales : ContourScales) :
    (contour (flattenMoras phrases) scales).durations.length = phonemeTotal phrases := by
  rw [length_durations, sum_phonemeCount_flattenMoras]

/-! ## Accent marks -/

namespace AccentPhrase

theorem length_moraMarks (p : AccentPhrase) (m : Mora) (index : Nat) :
    (p.moraMarks m index).length = m.phonemeCount := by
  cases h : m.consonant <;> simp [moraMarks, Mora.phonemeCount, h]

theorem sum_length_moraMarks (p : AccentPhrase) :
    (p.moras.mapIdx fun index m => p.moraMarks m index).flatten.length =
      (p.moras.map Mora.phonemeCount).sum := by
  have counts : (p.moras.mapIdx fun index m => p.moraMarks m index).map List.length =
      p.moras.map Mora.phonemeCount := by
    apply List.ext_getElem
    · simp
    · intro index _ _
      simp [length_moraMarks]
  rw [List.length_flatten, counts]

/-- A pause is one mark, so it must be one phoneme. -/
theorem length_marks_eq_phonemeCount {p : AccentPhrase} (h : p.HasBarePause) :
    p.marks.length = p.phonemeCount := by
  have pauseMarks : (if p.pause.isSome then [AccentMark.hold] else []).length =
      (p.pause.toList.map Mora.phonemeCount).sum := by
    cases hp : p.pause with
    | none => rfl
    | some m => simp [Mora.phonemeCount_of_bare (h m hp)]
  rw [length_marks, openMarks, List.length_append, sum_length_moraMarks, pauseMarks,
    phonemeCount_eq_sum]

end AccentPhrase

theorem length_accentSymbols {phrases : List AccentPhrase}
    (h : ∀ p ∈ phrases, p.HasBarePause) :
    (accentSymbols phrases).length = phonemeTotal phrases := by
  rw [accentSymbols, List.length_map, accentMarks, List.length_flatMap, phonemeTotal_eq_sum]
  congr 1
  exact List.map_congr_left fun p mem => AccentPhrase.length_marks_eq_phonemeCount (h p mem)

/-! ## Upspeak -/

theorem hasBarePause_withUpspeak {phrases : List AccentPhrase}
    (h : ∀ p ∈ phrases, p.HasBarePause) : ∀ p ∈ withUpspeak phrases, p.HasBarePause := by
  intro p mem
  obtain ⟨q, found, rfl⟩ := List.mem_map.1 mem
  exact h q found

end KanaVoice
