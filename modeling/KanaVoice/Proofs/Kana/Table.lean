import Mathlib
import KanaVoice.Kana.Notation
set_option autoImplicit false

/-!
# What the kana table is like

A kana is one character, which may be followed by one small character.  No kana begins with a small
character or with a mark of the notation, so where a kana is followed by another one, by a mark or
by the end of the text, the longest kana that starts the text is that kana.
-/

namespace KanaVoice.Kana

/-- The characters that only stand behind another one. -/
def smallKana : List Char := ['ァ', 'ィ', 'ゥ', 'ェ', 'ォ', 'ャ', 'ュ', 'ョ', 'ヮ']

/-- The characters that have a meaning of their own in the notation. -/
def marks : List Char :=
  [accentMark, devoiceMark, questionMark, Delimiter.joint.char, Delimiter.pause.char]

/-- The text does not go on with a small character. -/
def StartsAfresh (text : List Char) : Prop := ∀ c ∈ text.head?, c ∉ smallKana

theorem startsAfresh_nil : StartsAfresh [] := nofun

theorem startsAfresh_cons {c : Char} (text : List Char) (h : c ∉ smallKana) :
    StartsAfresh (c :: text) := by
  rintro _ ⟨⟩
  exact h

/-! ## The shape of a kana -/

theorem kana_shape : ∀ e ∈ table,
    (e.kana.toList.head?.all fun c => c ∉ smallKana ∧ c ∉ marks) ∧
    e.kana.toList.tail.all (· ∈ smallKana) := by
  decide +kernel

theorem not_mem_marks_of_small {c : Char} (h : c ∈ smallKana) : c ∉ marks := by
  have apart : smallKana.all (· ∉ marks) := by decide
  simpa using List.all_eq_true.1 apart c h

/-- A kana is a character that begins kana and perhaps small ones behind it. -/
theorem kana_eq_cons {e : Entry} (h : e ∈ table) :
    ∃ c tail, e.kana.toList = c :: tail ∧ c ∉ smallKana ∧ c ∉ marks ∧
      ∀ s ∈ tail, s ∈ smallKana := by
  obtain ⟨first, rest⟩ := kana_shape e h
  obtain ⟨c, tail, same⟩ := List.exists_cons_of_ne_nil (kana_ne_nil h)
  rw [same] at first rest
  have begins : c ∉ smallKana ∧ c ∉ marks := by simpa using first
  exact ⟨c, tail, same, begins.1, begins.2, by simpa using rest⟩

theorem not_mem_marks_of_mem_kana {e : Entry} (h : e ∈ table) {c : Char}
    (mem : c ∈ e.kana.toList) : c ∉ marks := by
  obtain ⟨first, tail, same, -, begins, small⟩ := kana_eq_cons h
  rw [same] at mem
  rcases List.mem_cons.1 mem with rfl | mem
  · exact begins
  · exact not_mem_marks_of_small (small c mem)

theorem startsAfresh_kana_append {e : Entry} (h : e ∈ table) (text : List Char) :
    StartsAfresh (e.kana.toList ++ text) := by
  obtain ⟨c, tail, same, begins, -, -⟩ := kana_eq_cons h
  rw [same]
  exact startsAfresh_cons _ begins

/-! ## The longest kana -/

theorem longestPrefix?_eq_some {text : List Char} {e : Entry} (h : longestPrefix? text = some e) :
    e ∈ table ∧ text = e.kana.toList ++ text.drop e.kana.toList.length := by
  have pre : e.kana.toList <+: text := by simpa using List.find?_some h
  obtain ⟨rest, rfl⟩ := pre
  refine ⟨List.mem_of_find?_eq_some h, ?_⟩
  rw [List.drop_left]

theorem longestPrefix?_kana : ∀ e ∈ table, longestPrefix? e.kana.toList = some e := by
  decide +kernel

/-- A kana that starts a text reaches no further than the first kana there, unless a small
character comes next. -/
theorem isPrefixOf_kana_append {e other : Entry} (h : other ∈ table) (mem : e ∈ table)
    {text : List Char} (afresh : StartsAfresh text) :
    other.kana.toList.isPrefixOf (e.kana.toList ++ text) =
      other.kana.toList.isPrefixOf e.kana.toList := by
  obtain ⟨c, tail, kana, -, -, -⟩ := kana_eq_cons mem
  obtain ⟨c', tail', kana', -, -, small⟩ := kana_eq_cons h
  rw [Bool.eq_iff_iff, List.isPrefixOf_iff_prefix, List.isPrefixOf_iff_prefix, kana, kana',
    List.cons_append, List.cons_prefix_cons, List.cons_prefix_cons]
  refine and_congr_right fun _ => ⟨fun fits => ?_, fun fits => fits.trans (List.prefix_append _ _)⟩
  rcases List.prefix_or_prefix_of_prefix fits (List.prefix_append tail text) with
    short | ⟨more, rfl⟩
  · exact short
  · rw [List.prefix_append_right_inj] at fits
    cases more with
    | nil =>
      exact (List.append_nil tail).symm ▸ List.prefix_rfl
    | cons s more =>
      obtain ⟨_, rfl⟩ := fits
      exact absurd (small s (by simp)) (afresh s rfl)

/-- Reading on from a kana finds that kana. -/
theorem longestPrefix?_kana_append {e : Entry} (h : e ∈ table) {text : List Char}
    (afresh : StartsAfresh text) : longestPrefix? (e.kana.toList ++ text) = some e := by
  rw [← longestPrefix?_kana e h]
  exact List.find?_congr fun other mem => isPrefixOf_kana_append mem h afresh

/-! ## Vowels -/

theorem lookup_map_pair {f : String → String} {names : List String} {v w : String} :
    (names.map fun v => (v, f v)).lookup v = some w ↔ v ∈ names ∧ w = f v := by
  induction names with
  | nil => simp
  | cons name rest ih =>
    rw [List.map_cons, List.lookup_cons]
    by_cases same : v = name
    · subst same
      simp [eq_comm]
    · rw [beq_false_of_ne same, List.mem_cons, or_iff_right same]
      exact ih

/-- The vowels that can be devoiced. -/
def voicedVowels : List String := ["a", "i", "u", "e", "o"]

/-- Devoicing a vowel puts it in upper case. -/
theorem devoice?_eq_some_iff {v w : String} :
    devoice? v = some w ↔ v ∈ voicedVowels ∧ w = v.toUpper := by
  have spelled : devoicing = voicedVowels.map fun v => (v, v.toUpper) := by decide +kernel
  rw [devoice?, spelled, lookup_map_pair]

theorem isDevoiced_of_devoice? {v w : String} (h : devoice? v = some w) : isDevoiced w := by
  obtain ⟨voiced, rfl⟩ := devoice?_eq_some_iff.1 h
  have all : ∀ v ∈ voicedVowels, isDevoiced v.toUpper := by decide +kernel
  exact all v voiced

theorem not_isDevoiced_vowel : ∀ e ∈ table, isDevoiced e.vowel = false := by decide +kernel

end KanaVoice.Kana
