import KanaVoice.Proofs.Except
import KanaVoice.Proofs.Kana.Table
set_option autoImplicit false

/-!
# Reading and writing one phrase

The notation writes certain morae: those of the kana table, and those with a vowel devoiced.  On
such morae reading and writing undo each other, with the accent mark behind any one of them and the
question mark behind the last.
-/

namespace KanaVoice

open Kana

/-- The mora is one of the kana table, or one of them with its vowel devoiced. -/
def Mora.IsNotated (m : Mora) : Prop :=
  ∃ e ∈ table, m = .plain e.kana e.consonant e.vowel ∨
    e.vowel ∈ voicedVowels ∧ m = .plain e.kana e.consonant e.vowel.toUpper

instance (m : Mora) : Decidable m.IsNotated :=
  inferInstanceAs (Decidable (∃ e ∈ table, m = .plain e.kana e.consonant e.vowel ∨
    e.vowel ∈ voicedVowels ∧ m = .plain e.kana e.consonant e.vowel.toUpper))

/-- The phrase is what some notation says: morae of the notation, one of which is accented, and
behind them a pause without a length, or none. -/
structure AccentPhrase.IsCanonical (p : AccentPhrase) : Prop where
  nonempty : p.moras ≠ []
  accent_pos : 1 ≤ p.accent
  accent_le : p.accent ≤ p.moras.length
  notated : ∀ m ∈ p.moras, m.IsNotated
  pause : p.pause = none ∨ p.pause = some .pause

theorem AccentPhrase.isCanonical_iff (p : AccentPhrase) :
    p.IsCanonical ↔ p.moras ≠ [] ∧ 1 ≤ p.accent ∧ p.accent ≤ p.moras.length ∧
      (∀ m ∈ p.moras, m.IsNotated) ∧ (p.pause = none ∨ p.pause = some .pause) :=
  ⟨fun h => ⟨h.nonempty, h.accent_pos, h.accent_le, h.notated, h.pause⟩,
    fun ⟨nonempty, pos, le, notated, pause⟩ => ⟨nonempty, pos, le, notated, pause⟩⟩

instance (p : AccentPhrase) : Decidable p.IsCanonical :=
  decidable_of_iff' _ p.isCanonical_iff

namespace Kana

/-! ## One mora -/

/-- A mora as it is written. -/
def chars (m : Mora) : List Char :=
  (if isDevoiced m.vowel then [devoiceMark] else []) ++ m.text.toList

theorem moraChars_cons (accent index : Nat) (m : Mora) (rest : List Mora) :
    moraChars accent index (m :: rest) =
      chars m ++ ((if index + 1 = accent then [accentMark] else []) ++
        moraChars accent (index + 1) rest) := by
  simp [moraChars, chars]

/-- A notated mora has its vowel from its entry, as it stands there or devoiced. -/
theorem isNotated_iff {m : Mora} :
    m.IsNotated ↔ ∃ e ∈ table, m = plainMora e m.vowel ∧
      if isDevoiced m.vowel then devoice? e.vowel = some m.vowel else m.vowel = e.vowel := by
  constructor
  · rintro ⟨e, mem, rfl | ⟨voiced, rfl⟩⟩
    · refine ⟨e, mem, rfl, ?_⟩
      simp [Mora.plain, not_isDevoiced_vowel e mem]
    · have found : devoice? e.vowel = some e.vowel.toUpper := devoice?_eq_some_iff.2 ⟨voiced, rfl⟩
      refine ⟨e, mem, rfl, ?_⟩
      simp [Mora.plain, isDevoiced_of_devoice? found, found]
  · rintro ⟨e, mem, same, found⟩
    refine ⟨e, mem, ?_⟩
    split at found
    · obtain ⟨voiced, upper⟩ := devoice?_eq_some_iff.1 found
      exact .inr ⟨voiced, by rw [← upper]; exact same⟩
    · exact .inl (by rw [← found]; exact same)

theorem startsAfresh_chars_append {m : Mora} (h : m.IsNotated) (text : List Char) :
    StartsAfresh (chars m ++ text) := by
  obtain ⟨e, mem, same, -⟩ := isNotated_iff.1 h
  have kana : m.text = e.kana := congrArg Mora.text same
  rw [chars, kana]
  split
  · exact startsAfresh_cons _ (by decide)
  · exact startsAfresh_kana_append mem text

theorem startsAfresh_moraChars {moras : List Mora} (h : ∀ m ∈ moras, m.IsNotated)
    (accent index : Nat) : StartsAfresh (moraChars accent index moras) := by
  cases moras with
  | nil => exact startsAfresh_nil
  | cons m rest =>
    rw [moraChars_cons]
    exact startsAfresh_chars_append (h m (by simp)) _

/-- Of the marks only the underline occurs in a notated mora. -/
theorem mem_chars {m : Mora} (h : m.IsNotated) {c : Char} (mem : c ∈ chars m) :
    c = devoiceMark ∨ c ∉ marks := by
  obtain ⟨e, known, same, -⟩ := isNotated_iff.1 h
  have kana : m.text = e.kana := congrArg Mora.text same
  rcases List.mem_append.1 mem with mem | mem
  · split at mem
    · exact .inl (List.mem_singleton.1 mem)
    · cases mem
  · rw [kana] at mem
    exact .inr (not_mem_marks_of_mem_kana known mem)

/-! ## Reading one step -/

theorem readMoras_accentMark {count : Nat} (pos : count ≠ 0) (text : List Char) :
    readMoras count none (accentMark :: text) = readMoras count (some count) text := by
  rw [readMoras, if_pos rfl, if_neg pos]
  simp

/-- The vowel that the reader gives an entry, behind an underline or not. -/
def readVowel (c : Char) (e : Entry) : Except KanaFault String :=
  if c = devoiceMark then
    match devoice? e.vowel with
    | some vowel => .ok vowel
    | none => .error (.cannotDevoice e.kana)
  else .ok e.vowel

theorem readMoras_of_longestPrefix? {c : Char} {rest : List Char} {e : Entry}
    (other : c ≠ accentMark) (found : longestPrefix? (dropDevoiceMark (c :: rest)) = some e)
    (count : Nat) (accent : Option Nat) :
    readMoras count accent (c :: rest) = (do
      let vowel ← readVowel c e
      let (moras, accent) ← readMoras (count + 1) accent
        ((dropDevoiceMark (c :: rest)).drop e.kana.toList.length)
      .ok (plainMora e vowel :: moras, accent)) := by
  rw [readMoras, if_neg other]
  split
  case h_1 absent => simp [found] at absent
  case h_2 e' found' =>
    rw [found] at found'
    cases found'
    unfold readVowel
    split
    · cases devoice? e.vowel <;> rfl
    · rfl

/-- The mora in front of a text is read as itself. -/
theorem readMoras_chars {m : Mora} (h : m.IsNotated) (count : Nat) (accent : Option Nat)
    {text : List Char} (afresh : StartsAfresh text) :
    readMoras count accent (chars m ++ text) = (do
      let (moras, accent) ← readMoras (count + 1) accent text
      .ok (m :: moras, accent)) := by
  obtain ⟨e, known, same, vowel⟩ := isNotated_iff.1 h
  have kana : m.text = e.kana := congrArg Mora.text same
  have next := longestPrefix?_kana_append known afresh
  rw [chars, kana]
  split at vowel
  case isTrue devoiced =>
    have dropped : dropDevoiceMark (devoiceMark :: (e.kana.toList ++ text)) =
        e.kana.toList ++ text := by simp [dropDevoiceMark]
    rw [if_pos devoiced, List.append_assoc, List.singleton_append,
      readMoras_of_longestPrefix? (by decide) (by rw [dropped]; exact next), dropped,
      List.drop_left, readVowel, if_pos rfl, vowel, except_ok_bind, ← same]
  case isFalse voiced =>
    obtain ⟨c, tail, split, -, begins, -⟩ := kana_eq_cons known
    have notDevoice : c ≠ devoiceMark := by
      rintro rfl
      exact begins (by decide)
    have notAccent : c ≠ accentMark := by
      rintro rfl
      exact begins (by decide)
    have dropped : dropDevoiceMark (c :: (tail ++ text)) = e.kana.toList ++ text := by
      simp [dropDevoiceMark, notDevoice, split]
    rw [if_neg voiced, List.nil_append, split, List.cons_append,
      readMoras_of_longestPrefix? notAccent (by rw [dropped]; exact next), dropped,
      List.drop_left, readVowel, if_neg notDevoice, except_ok_bind, ← vowel, ← same]

/-! ## What has been read -/

theorem length_chars_pos {m : Mora} (h : m.IsNotated) : 0 < (chars m).length := by
  obtain ⟨e, known, same, -⟩ := isNotated_iff.1 h
  have kana : m.text = e.kana := congrArg Mora.text same
  have nonempty := List.length_pos_iff.2 (kana_ne_nil known)
  rw [chars, kana, List.length_append]
  omega

theorem readVowel_eq_ok_iff {c : Char} {e : Entry} {vowel : String} :
    readVowel c e = .ok vowel ↔
      if c = devoiceMark then devoice? e.vowel = some vowel else vowel = e.vowel := by
  unfold readVowel
  split
  · cases devoice? e.vowel <;> simp
  · simp [eq_comm]

/-- Where no accent mark comes next, a successful reader has read a notated mora. -/
theorem readMoras_cons_of_ok {count : Nat} {accent accent' : Option Nat} {c : Char}
    {rest : List Char} {moras : List Mora} (other : c ≠ accentMark)
    (h : readMoras count accent (c :: rest) = .ok (moras, accent')) :
    ∃ m text more, m.IsNotated ∧ c :: rest = chars m ++ text ∧ moras = m :: more ∧
      readMoras (count + 1) accent text = .ok (more, accent') := by
  cases found : longestPrefix? (dropDevoiceMark (c :: rest)) with
  | none =>
    rw [readMoras, if_neg other] at h
    split at h
    case h_1 => cases h
    case h_2 e present => simp [found] at present
  | some e =>
    rw [readMoras_of_longestPrefix? other found] at h
    obtain ⟨vowel, first, h⟩ := except_bind_eq_ok_iff.1 h
    obtain ⟨⟨more, last⟩, second, h⟩ := except_bind_eq_ok_iff.1 h
    cases h
    obtain ⟨known, split⟩ := longestPrefix?_eq_some found
    have vowelOf := readVowel_eq_ok_iff.1 first
    have devoiced : isDevoiced vowel = decide (c = devoiceMark) := by
      by_cases mark : c = devoiceMark
      · rw [if_pos mark] at vowelOf
        simp [mark, isDevoiced_of_devoice? vowelOf]
      · rw [if_neg mark] at vowelOf
        simp [mark, vowelOf, not_isDevoiced_vowel e known]
    refine ⟨plainMora e vowel, _, more, isNotated_iff.2 ⟨e, known, rfl, ?_⟩, ?_, rfl, second⟩
    · show if isDevoiced vowel then devoice? e.vowel = some vowel else vowel = e.vowel
      simpa [devoiced] using vowelOf
    · show c :: rest = ((if isDevoiced vowel then [devoiceMark] else []) ++ e.kana.toList) ++ _
      rw [List.append_assoc, ← split, devoiced]
      by_cases mark : c = devoiceMark
      · simp [dropDevoiceMark, mark]
      · simp [dropDevoiceMark, mark]

/-- What the reader has read from a text, starting at the mora that `count` counts to: the text
writes the morae, and if the accent was still open, the mark stands where it was found. -/
structure Reads (count : Nat) (accent : Option Nat) (text : List Char) (moras : List Mora)
    (accent' : Option Nat) : Prop where
  notated : ∀ m ∈ moras, m.IsNotated
  written : text = (if accent = none ∧ accent' = some count then [accentMark] else []) ++
    moraChars (accent'.getD 0) count moras
  kept : ∀ a ∈ accent, accent' = some a
  found : accent = none → ∀ a ∈ accent', 1 ≤ a ∧ count ≤ a ∧ a ≤ count + moras.length

namespace Reads

theorem nil (count : Nat) (accent : Option Nat) : Reads count accent [] [] accent where
  notated := by simp
  written := by cases accent <;> simp [moraChars]
  kept _ mem := mem
  found := by rintro rfl a ⟨⟩

variable {count : Nat} {accent accent' : Option Nat} {text : List Char} {moras : List Mora}

/-- The mark stands behind a mora. -/
theorem mark (positive : count ≠ 0) (more : Reads count (some count) text moras accent') :
    Reads count none (accentMark :: text) moras accent' := by
  have here := more.kept count rfl
  subst here
  exact {
    notated := more.notated
    written := by simpa using more.written
    kept := nofun
    found := by
      rintro - a ⟨⟩
      omega }

/-- The next mora bears the accent if the mark is found right behind it. -/
theorem accented_iff (earlier : ∀ a ∈ accent, 1 ≤ a ∧ a ≤ count)
    (more : Reads (count + 1) accent text moras accent') :
    count + 1 = accent'.getD 0 ↔ accent = none ∧ accent' = some (count + 1) := by
  constructor
  · intro here
    cases accent with
    | none =>
      cases accent' with
      | none => cases here
      | some a => exact ⟨rfl, congrArg some here.symm⟩
    | some a =>
      rw [more.kept a rfl, Option.getD_some] at here
      have := earlier a rfl
      omega
  · rintro ⟨-, here⟩
    rw [here]
    rfl

theorem mora {m : Mora} (notated : m.IsNotated) (earlier : ∀ a ∈ accent, 1 ≤ a ∧ a ≤ count)
    (more : Reads (count + 1) accent text moras accent') :
    Reads count accent (chars m ++ text) (m :: moras) accent' := by
  -- The mark is found behind the mora at the earliest.
  have notBefore : ¬ (accent = none ∧ accent' = some count) := by
    rintro ⟨first, here⟩
    have := more.found first count here
    omega
  refine ⟨List.forall_mem_cons.2 ⟨notated, more.notated⟩, ?_, more.kept, ?_⟩
  · rw [if_neg notBefore, List.nil_append, moraChars_cons]
    congr 1
    rw [more.written]
    simp only [more.accented_iff earlier]
  · intro first a mem
    have := more.found first a mem
    rw [List.length_cons]
    omega

end Reads

theorem reads_of_readMoras {count : Nat} {accent accent' : Option Nat} {text : List Char}
    {moras : List Mora} (earlier : ∀ a ∈ accent, 1 ≤ a ∧ a ≤ count)
    (h : readMoras count accent text = .ok (moras, accent')) :
    Reads count accent text moras accent' := by
  cases shape : text with
  | nil =>
    rw [shape, readMoras] at h
    cases h
    exact .nil count accent
  | cons c rest =>
    rw [shape] at h
    by_cases mark : c = accentMark
    · subst mark
      rw [readMoras, if_pos rfl] at h
      split at h
      · cases h
      case isFalse positive =>
        split at h
        · cases h
        case isFalse unaccented =>
          have first : accent = none := by simpa using unaccented
          have shorter : rest.length < text.length := by
            rw [shape]
            exact Nat.lt_succ_self _
          subst first
          exact .mark positive (reads_of_readMoras (by simp; omega) h)
    · obtain ⟨m, behind, rest', notated, same, rfl, later⟩ := readMoras_cons_of_ok mark h
      have shorter : behind.length < text.length := by
        have := length_chars_pos notated
        rw [shape, same, List.length_append]
        omega
      rw [same]
      refine .mora notated earlier (reads_of_readMoras ?_ later)
      intro a mem
      have := earlier a mem
      omega
termination_by text.length
decreasing_by
  · exact shorter
  · exact shorter

/-! ## Written morae are read back -/

theorem readMoras_moraChars {moras : List Mora} (notated : ∀ m ∈ moras, m.IsNotated)
    {accent index : Nat} {mark : Option Nat} (unread : index < accent → mark = none) :
    readMoras index mark (moraChars accent index moras) =
      .ok (moras,
        if index < accent ∧ accent ≤ index + moras.length then some accent else mark) := by
  induction moras generalizing index mark with
  | nil =>
    rw [moraChars, readMoras, if_neg (by simp)]
  | cons m rest ih =>
    have later := List.forall_mem_cons.1 notated
    rw [moraChars_cons, List.length_cons]
    by_cases here : index + 1 = accent
    · have afresh : StartsAfresh (accentMark :: moraChars accent (index + 1) rest) :=
        startsAfresh_cons _ (by decide)
      rw [if_pos here, List.singleton_append, readMoras_chars later.1 _ _ afresh,
        unread (by omega), readMoras_accentMark (by omega), ih later.2 (by omega),
        if_neg (by omega), if_pos (by omega), here]
      rfl
    · have afresh := startsAfresh_moraChars later.2 accent (index + 1)
      rw [if_neg here, List.nil_append, readMoras_chars later.1 _ _ afresh,
        ih later.2 fun before => unread (by omega)]
      have reach : (index + 1 < accent ∧ accent ≤ index + 1 + rest.length) ↔
          (index < accent ∧ accent ≤ index + (rest.length + 1)) := by omega
      simp only [reach]
      rfl

/-! ## Phrases -/

/-- A phrase is written without delimiters, and without the question mark that may end it. -/
theorem not_mem_marks_of_mem_moraChars {moras : List Mora} (notated : ∀ m ∈ moras, m.IsNotated)
    {accent index : Nat} {c : Char} (mem : c ∈ moraChars accent index moras) :
    c = devoiceMark ∨ c = accentMark ∨ c ∉ marks := by
  induction moras generalizing index with
  | nil => cases mem
  | cons m rest ih =>
    have later := List.forall_mem_cons.1 notated
    rw [moraChars_cons, List.mem_append, List.mem_append] at mem
    rcases mem with mem | mem | mem
    · rcases mem_chars later.1 mem with rfl | other
      · exact .inl rfl
      · exact .inr (.inr other)
    · split at mem
      · exact .inr (.inl (List.mem_singleton.1 mem))
      · cases mem
    · exact ih later.2 mem

theorem ofChar?_of_not_mem_marks {c : Char} (h : c ∉ marks) : Delimiter.ofChar? c = none := by
  have joint : c ≠ Delimiter.joint.char := by
    rintro rfl
    exact h (by decide)
  have pause : c ≠ Delimiter.pause.char := by
    rintro rfl
    exact h (by decide)
  rw [Delimiter.ofChar?, if_neg joint, if_neg pause]

theorem phraseChars_ne_nil {p : AccentPhrase} (h : p.IsCanonical) : phraseChars p ≠ [] := by
  obtain ⟨m, rest, same⟩ := List.exists_cons_of_ne_nil h.nonempty
  have first := length_chars_pos (h.notated m (by simp [same]))
  rw [phraseChars, same, moraChars_cons]
  intro empty
  rw [List.append_assoc, List.append_eq_nil_iff] at empty
  simp [empty.1] at first

theorem ofChar?_of_mem_phraseChars {p : AccentPhrase} (h : p.IsCanonical) :
    ∀ c ∈ phraseChars p, Delimiter.ofChar? c = none := by
  intro c mem
  rcases List.mem_append.1 mem with mem | mem
  · rcases not_mem_marks_of_mem_moraChars h.notated mem with rfl | rfl | other
    · decide
    · decide
    · exact ofChar?_of_not_mem_marks other
  · split at mem
    · rw [List.mem_singleton.1 mem]
      decide
    · cases mem

theorem getLast?_moraChars_ne {moras : List Mora} (notated : ∀ m ∈ moras, m.IsNotated)
    (accent index : Nat) : (moraChars accent index moras).getLast? ≠ some questionMark := by
  intro last
  rcases not_mem_marks_of_mem_moraChars notated (List.mem_of_getLast? last) with same | same | other
  · exact absurd same (by decide)
  · exact absurd same (by decide)
  · exact other (by decide)

theorem readPhrase_phraseChars {p : AccentPhrase} (h : p.IsCanonical) :
    readPhrase (phraseChars p) = .ok { p with pause := none } := by
  have body : readMoras 0 none (moraChars p.accent 0 p.moras) = _ :=
    readMoras_moraChars h.notated fun _ => rfl
  have accented : 0 < p.accent ∧ p.accent ≤ 0 + p.moras.length := by
    have := h.accent_pos
    have := h.accent_le
    omega
  rw [if_pos accented] at body
  cases question : p.isQuestion with
  | true =>
    simp [readPhrase, phraseChars, question, body, h.nonempty]
  | false =>
    have unasked := getLast?_moraChars_ne h.notated p.accent 0
    simp [readPhrase, phraseChars, question, body, h.nonempty, unasked]

/-- What is read from a piece writes that piece. -/
theorem phraseChars_of_readPhrase {piece : List Char} {p : AccentPhrase}
    (h : readPhrase piece = .ok p) : p.IsCanonical ∧ phraseChars p = piece ∧ p.pause = none := by
  unfold readPhrase at h
  obtain ⟨⟨moras, accent'⟩, first, h⟩ := except_bind_eq_ok_iff.1 h
  have read := reads_of_readMoras (by simp) first
  simp only [] at h
  split at h
  · cases h
  case isFalse nonempty =>
    cases accent' with
    | none => cases h
    | some accent =>
      cases h
      have place := read.found rfl accent rfl
      have behindMora : ¬ ((none : Option Nat) = none ∧ some accent = some 0) := by
        rintro ⟨-, ⟨⟩⟩
        omega
      have written := read.written
      rw [if_neg behindMora, List.nil_append, Option.getD_some] at written
      refine ⟨⟨by simpa using nonempty, place.1, by simpa using place.2.2, read.notated, .inl rfl⟩,
        ?_, rfl⟩
      simp only [phraseChars, ← written]
      by_cases question : piece.getLast? = some questionMark
      · obtain ⟨body, rfl⟩ := List.getLast?_eq_some_iff.1 question
        simp
      · simp [question]

end Kana

end KanaVoice
