import KanaVoice.Proofs.Kana.Phrase
set_option autoImplicit false

/-!
# Reading and writing undo each other

A text is cut at its delimiters, of which no phrase contains any, so phrases with delimiters between
them are cut into these phrases again.  Every text that can be read is what its phrases are written
as, and every list of canonical phrases is read from what it is written as.
-/

namespace KanaVoice.Kana

/-- Every phrase is canonical, and nothing comes after the last one. -/
structure Canonical (phrases : List AccentPhrase) : Prop where
  each : ∀ p ∈ phrases, p.IsCanonical
  last : ∀ p ∈ phrases.getLast?, p.pause = none

instance (phrases : List AccentPhrase) : Decidable (Canonical phrases) :=
  decidable_of_iff ((∀ p ∈ phrases, p.IsCanonical) ∧ ∀ p ∈ phrases.getLast?, p.pause = none)
    ⟨fun ⟨each, last⟩ => ⟨each, last⟩, fun h => ⟨h.each, h.last⟩⟩

/-! ## Cutting -/

/-- The text contains no delimiter. -/
def Undelimited (text : List Char) : Prop := ∀ c ∈ text, Delimiter.ofChar? c = none

theorem pieces_of_undelimited {text : List Char} (h : Undelimited text) :
    pieces text = [(text, none)] := by
  induction text with
  | nil => rfl
  | cons c rest ih =>
    rw [pieces, h c (by simp), ih fun d mem => h d (by simp [mem])]

theorem pieces_append {piece : List Char} (h : Undelimited piece) (d : Delimiter)
    (rest : List Char) : pieces (piece ++ d.char :: rest) = (piece, some d) :: pieces rest := by
  induction piece with
  | nil => rw [List.nil_append, pieces, Delimiter.ofChar?_char]
  | cons c piece ih =>
    rw [List.cons_append, pieces, h c (by simp), ih fun d mem => h d (by simp [mem])]

theorem Delimiter.eq_char_of_ofChar? {c : Char} {d : Delimiter} (h : ofChar? c = some d) :
    c = d.char := by
  unfold ofChar? at h
  split at h
  case isTrue same =>
    cases h
    exact same
  case isFalse =>
    split at h
    case isTrue same =>
      cases h
      exact same
    case isFalse => cases h

/-- A text without delimiters is one piece; any other one goes on behind its first delimiter. -/
theorem undelimited_or_cut (text : List Char) :
    Undelimited text ∨
      ∃ piece d rest, Undelimited piece ∧ text = piece ++ Delimiter.char d :: rest := by
  induction text with
  | nil => exact .inl nofun
  | cons c text ih =>
    cases delimiter : Delimiter.ofChar? c with
    | some d =>
      refine .inr ⟨[], d, text, nofun, ?_⟩
      rw [List.nil_append, Delimiter.eq_char_of_ofChar? delimiter]
    | none =>
      rcases ih with undelimited | ⟨piece, d, rest, undelimited, rfl⟩
      · exact .inl (List.forall_mem_cons.2 ⟨delimiter, undelimited⟩)
      · exact .inr ⟨c :: piece, d, rest, List.forall_mem_cons.2 ⟨delimiter, undelimited⟩, rfl⟩

/-! ## Pieces -/

theorem phrase_of_readPiece {piece : List Char} {d : Option Delimiter} {p : AccentPhrase}
    (h : readPiece (piece, d) = .ok p) :
    p.IsCanonical ∧ phraseChars p = piece ∧
      p.pause = if d = some .pause then some .pause else none := by
  obtain ⟨q, first, h⟩ := except_bind_eq_ok_iff.1 h
  obtain ⟨canonical, written, bare⟩ := phraseChars_of_readPhrase first
  split at h
  case isTrue paused =>
    cases h
    refine ⟨⟨canonical.nonempty, canonical.accent_pos, canonical.accent_le, canonical.notated,
      .inr rfl⟩, written, ?_⟩
    rw [if_pos paused]
  case isFalse joined =>
    cases h
    refine ⟨canonical, written, ?_⟩
    rw [if_neg joined]
    exact bare

theorem readPiece_phraseChars {p : AccentPhrase} (h : p.IsCanonical) {d : Option Delimiter}
    (paused : p.pause.isSome ↔ d = some .pause) : readPiece (phraseChars p, d) = .ok p := by
  rw [readPiece, readPhrase_phraseChars h, except_ok_bind]
  rcases h.pause with bare | pause
  · have joined : d ≠ some .pause := fun same => by simp [bare] at paused; exact paused same
    rw [if_neg joined, ← bare]
  · rw [if_pos (paused.1 (by simp [pause])), ← pause]

/-! ## Texts -/

theorem phrasesChars_cons (p : AccentPhrase) {rest : List AccentPhrase} (h : rest ≠ []) :
    phrasesChars (p :: rest) = phraseChars p ++ (delimiterOf p).char :: phrasesChars rest := by
  cases rest with
  | nil => contradiction
  | cons q rest => rfl

theorem canonical_of_readPieces {text : List Char} {phrases : List AccentPhrase}
    (h : (pieces text).mapM readPiece = .ok phrases) :
    phrases ≠ [] ∧ Canonical phrases ∧ phrasesChars phrases = text := by
  rcases undelimited_or_cut text with undelimited | ⟨piece, d, rest, undelimited, same⟩
  · rw [pieces_of_undelimited undelimited, mapM_cons_eq_ok_iff] at h
    obtain ⟨p, _, first, ⟨⟩, rfl⟩ := h
    obtain ⟨canonical, written, bare⟩ := phrase_of_readPiece first
    refine ⟨by simp, ⟨by simpa using canonical, ?_⟩, written⟩
    simpa using bare
  · have shorter : rest.length < text.length := by
      rw [same, List.length_append, List.length_cons]
      omega
    rw [same, pieces_append undelimited, mapM_cons_eq_ok_iff] at h
    obtain ⟨p, more, first, later, rfl⟩ := h
    obtain ⟨canonical, written, pause⟩ := phrase_of_readPiece first
    have ih := canonical_of_readPieces later
    have delimiter : delimiterOf p = d := by
      rw [delimiterOf, pause]
      cases d <;> rfl
    refine ⟨by simp, ⟨List.forall_mem_cons.2 ⟨canonical, ih.2.1.each⟩, ?_⟩, ?_⟩
    · rw [List.getLast?_cons_of_ne_nil ih.1]
      exact ih.2.1.last
    · rw [phrasesChars_cons p ih.1, written, delimiter, ih.2.2, same]
termination_by text.length
decreasing_by exact shorter

theorem readPieces_phrasesChars {phrases : List AccentPhrase} (h : Canonical phrases)
    (nonempty : phrases ≠ []) :
    (pieces (phrasesChars phrases)).mapM readPiece = .ok phrases := by
  induction phrases with
  | nil => contradiction
  | cons p rest ih =>
    have canonical := h.each p (by simp)
    have undelimited : Undelimited (phraseChars p) := ofChar?_of_mem_phraseChars canonical
    by_cases final : rest = []
    · subst final
      have bare := h.last p rfl
      rw [phrasesChars, pieces_of_undelimited undelimited, mapM_cons_eq_ok_iff]
      exact ⟨p, [], readPiece_phraseChars canonical (by simp [bare]), rfl, rfl⟩
    · have later : Canonical rest := by
        refine ⟨fun q mem => h.each q (by simp [mem]), ?_⟩
        rw [← List.getLast?_cons_of_ne_nil final]
        exact h.last
      rw [phrasesChars_cons p final, pieces_append undelimited, mapM_cons_eq_ok_iff]
      refine ⟨p, rest, readPiece_phraseChars canonical ?_, ih later final, rfl⟩
      unfold delimiterOf
      cases p.pause <;> simp

theorem phrasesChars_ne_nil {phrases : List AccentPhrase} (h : Canonical phrases)
    (nonempty : phrases ≠ []) : phrasesChars phrases ≠ [] := by
  cases phrases with
  | nil => contradiction
  | cons p rest =>
    have written := phraseChars_ne_nil (h.each p (by simp))
    cases rest with
    | nil => exact written
    | cons q rest => simp [phrasesChars, written]

theorem written_of_read {text : String} {phrases : List AccentPhrase}
    (h : read text = .ok phrases) : write phrases = text ∧ Canonical phrases := by
  unfold read at h
  split at h
  case isTrue empty =>
    cases h
    exact ⟨empty.symm, nofun, nofun⟩
  case isFalse =>
    obtain ⟨-, canonical, written⟩ := canonical_of_readPieces (mapError_eq_ok_iff.1 h)
    exact ⟨by rw [write, written, String.ofList_toList], canonical⟩

/-- What can be read is what canonical phrases are written as. -/
theorem read_eq_ok_iff {text : String} {phrases : List AccentPhrase} :
    read text = .ok phrases ↔ Canonical phrases ∧ write phrases = text := by
  refine ⟨fun h => (written_of_read h).symm, ?_⟩
  rintro ⟨canonical, rfl⟩
  by_cases empty : phrases = []
  · rw [empty]
    rfl
  · have chars := phrasesChars_ne_nil canonical empty
    have written : write phrases ≠ "" := fun same => chars (by simpa [write] using same)
    rw [read, if_neg written, mapError_eq_ok_iff, write, String.toList_ofList]
    exact readPieces_phrasesChars canonical empty

/-- Every text that can be read is written again as it was, and no other text is read as the same
phrases. -/
theorem write_of_read {text : String} {phrases : List AccentPhrase} (h : read text = .ok phrases) :
    write phrases = text ∧ Canonical phrases ∧
      ∀ other, read other = .ok phrases → other = text := by
  obtain ⟨written, canonical⟩ := written_of_read h
  refine ⟨written, canonical, fun other same => ?_⟩
  rw [← (written_of_read same).1, written]

/-- The phrases of `テ'/_シ'タ、キョ'ウ？`. -/
def sample : List AccentPhrase :=
  [{ moras := [.plain "テ" (some "t") "e"], accent := 1 },
   { moras := [.plain "シ" (some "sh") "I", .plain "タ" (some "t") "a"], accent := 1,
     pause := some .pause },
   { moras := [.plain "キョ" (some "ky") "o", .plain "ウ" none "u"], accent := 1,
     isQuestion := true }]

theorem write_of_read_sample :
    read "テ'/_シ'タ、キョ'ウ？" = .ok sample ∧ write sample = "テ'/_シ'タ、キョ'ウ？" := by
  have chars : "テ'/_シ'タ、キョ'ウ？".toList = phrasesChars sample := by decide +kernel
  have given : read "テ'/_シ'タ、キョ'ウ？" = .ok sample := by
    rw [read, if_neg (by decide), chars, readPieces_phrasesChars (by decide +kernel) (by decide)]
    rfl
  exact ⟨given, (write_of_read given).1⟩

/-- Every list of canonical phrases is read from what it is written as. -/
theorem read_write {phrases : List AccentPhrase} (h : Canonical phrases) :
    read (write phrases) = .ok phrases := by
  by_cases empty : phrases = []
  · subst empty
    rfl
  · have written : write phrases ≠ "" := by
      intro same
      exact phrasesChars_ne_nil h empty (by simpa [write] using same)
    rw [read, if_neg written, write, String.toList_ofList, readPieces_phrasesChars h empty]
    rfl

theorem read_write_sample : Canonical sample ∧ read (write sample) = .ok sample := by
  have canonical : Canonical sample := by decide +kernel
  exact ⟨canonical, read_write canonical⟩

end KanaVoice.Kana
