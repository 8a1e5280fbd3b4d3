import KanaVoice.Proofs.Single.Zero
import KanaVoice.Proofs.Speech.BuiltInSymbols
set_option autoImplicit false

/-!
# Rises between morae and pauses

A rise is one more mora behind the last one of a rising phrase, before the pause, and its only
phoneme is the vowel of the mora before it.  So phrases with rises are encoded if and only if they
are without, and the numbers of their phonemes are those without rises, with the number of a vowel
repeated for each rising phrase.  The accent marks may all change, but there are as many of them as
there are phonemes.
-/

namespace KanaVoice

/-! ## Rises -/

/-- The rise has no phoneme but the vowel of the mora before it, and never lies above 6.5. -/
structure Mora.IsRiseOf (rise last : Mora) : Prop where
  consonant : rise.consonant = none
  consonantLength : rise.consonantLength = none
  vowel : rise.vowel = last.vowel
  vowelLength : rise.vowelLength = 0.15
  pitch : rise.pitch ≤ 6.5

/-- No pitch leads above the ceiling, be it an infinity or a NaN. -/
theorem upspeakPitch_le (pitch : Float32) : upspeakPitch pitch ≤ upspeakCeiling := by
  unfold upspeakPitch
  split
  case isTrue below => exact Single.le_of_lt below
  case isFalse => decide +kernel

theorem Mora.isRiseOf_upspeak (last : Mora) : last.upspeak.IsRiseOf last where
  consonant := rfl
  consonantLength := rfl
  vowel := rfl
  vowelLength := rfl
  pitch := upspeakPitch_le last.pitch

namespace AccentPhrase

/-- The phrase is a question, and it ends in a mora with a pitch. -/
def isRising (p : AccentPhrase) : Bool :=
  p.isQuestion && p.moras.getLast?.any fun last => last.pitch != 0

variable {p : AccentPhrase}

theorem upspeak?_of_not_isRising (level : p.isRising = false) : p.upspeak? = none := by
  unfold isRising at level
  unfold upspeak?
  cases h : p.moras.getLast? with
  | none => rfl
  | some last =>
    rw [h, Option.any_some] at level
    simp only [Option.bind_eq_bind, Option.bind_some, level, Bool.false_eq_true, if_false]

theorem exists_last_of_isRising (rising : p.isRising = true) :
    ∃ init last, p.moras = init ++ [last] ∧ p.upspeak? = some last.upspeak := by
  unfold isRising at rising
  unfold upspeak?
  rcases List.eq_nil_or_concat' p.moras with none | ⟨init, last, same⟩
  · simp [none] at rising
  · refine ⟨init, last, same, ?_⟩
    rw [same, List.getLast?_concat] at rising ⊢
    exact if_pos rising

theorem withUpspeak_of_not_isRising (level : p.isRising = false) : p.withUpspeak = p := by
  rw [withUpspeak, upspeak?_of_not_isRising level, Option.toList_none, List.append_nil]

theorem not_isRising_of_pitch (silent : ∀ last ∈ p.moras.getLast?, last.pitch = 0) :
    p.isRising = false := by
  unfold isRising
  cases h : p.moras.getLast? with
  | none => exact Bool.and_false _
  | some last =>
    rw [Option.any_some, silent last h]
    exact Bool.and_false _

/-- Placing pitches leaves voiceless morae without one. -/
theorem pitch_of_isVoiceless {values : List Float32} {start : Nat} {m : Mora}
    (mem : m ∈ (p.pitchesAt values start).moras) (voiceless : isVoiceless m.vowel) :
    m.pitch = 0 := by
  refine forall_mem_mapOffsets (P := fun m : Mora => isVoiceless m.vowel → m.pitch = 0) ?_ start
    m mem voiceless
  intro m _ start voiceless
  exact if_pos voiceless

end AccentPhrase

/-- A phrase whose last vowel is voiceless has no rise once pitches are placed. -/
theorem withUpspeak_of_isVoiceless {phrases placed : List AccentPhrase} {values : List Float32}
    (tuned : withPitches phrases values = .ok placed) {p : AccentPhrase} (mem : p ∈ placed)
    (voiceless : ∀ last ∈ p.moras.getLast?, isVoiceless last.vowel) : p.withUpspeak = p := by
  obtain ⟨-, rfl⟩ := withPitches_eq_ok_iff.1 tuned
  refine AccentPhrase.withUpspeak_of_not_isRising (AccentPhrase.not_isRising_of_pitch ?_)
  obtain ⟨q, start, rfl⟩ : ∃ q start, p = AccentPhrase.pitchesAt values start q :=
    forall_mem_mapOffsets (P := fun p => ∃ q start, p = AccentPhrase.pitchesAt values start q)
      (fun q _ start => ⟨q, start, rfl⟩) 0 p mem
  intro last isLast
  exact AccentPhrase.pitch_of_isVoiceless (List.mem_of_getLast? isLast) (voiceless last isLast)

/-! ## Streams with rises -/

section

variable {α : Type} {size : Mora → Nat} {rise : α → α}

/-- What a phrase adds behind what its morae have in a stream: one element, made of the last one, if
the phrase rises. -/
def AccentPhrase.riseBehind (p : AccentPhrase) (rise : α → α) (said : List α) : List α :=
  if p.isRising then (said.getLast?.map rise).toList else []

/-- A stream over the phrases in which each mora has as many elements as its size, with what the
phrases add between their morae and their pauses. -/
def insertRises (size : Mora → Nat) (rise : α → α) : List AccentPhrase → List α → List α
  | [], stream => stream
  | p :: rest, stream =>
    let said := stream.take (p.moras.map size).sum
    let after := stream.drop (p.moras.map size).sum
    said ++ p.riseBehind rise said ++ after.take (p.pause.toList.map size).sum ++
      insertRises size rise rest (after.drop (p.pause.toList.map size).sum)

theorem insertRises_cons {p : AccentPhrase} {said silence : List α}
    (ofMoras : said.length = (p.moras.map size).sum)
    (ofPause : silence.length = (p.pause.toList.map size).sum) (rest : List AccentPhrase)
    (more : List α) :
    insertRises size rise (p :: rest) (said ++ silence ++ more) =
      said ++ p.riseBehind rise said ++ silence ++ insertRises size rise rest more := by
  rw [List.append_assoc said]
  simp only [insertRises, ← ofMoras, ← ofPause, List.take_left, List.drop_left]

end

/-! ## Morae -/

theorem flattenMoras_withUpspeak_cons (p : AccentPhrase) (rest : List AccentPhrase) :
    flattenMoras (withUpspeak (p :: rest)) =
      p.moras ++ p.upspeak?.toList ++ p.pause.toList ++ flattenMoras (withUpspeak rest) :=
  flattenMoras_cons ..

theorem riseBehind_moras (p : AccentPhrase) :
    p.riseBehind Mora.upspeak p.moras = p.upspeak?.toList := by
  unfold AccentPhrase.riseBehind
  split
  case isTrue rising =>
    obtain ⟨init, last, same, risen⟩ := AccentPhrase.exists_last_of_isRising rising
    rw [risen, same, List.getLast?_concat]
    rfl
  case isFalse level =>
    rw [AccentPhrase.upspeak?_of_not_isRising (Bool.eq_false_iff.2 level), Option.toList_none]

theorem flattenMoras_withUpspeak (phrases : List AccentPhrase) :
    flattenMoras (withUpspeak phrases) =
      insertRises (fun _ => 1) Mora.upspeak phrases (flattenMoras phrases) := by
  induction phrases with
  | nil => rfl
  | cons p rest ih =>
    rw [flattenMoras_withUpspeak_cons, ih, flattenMoras_cons, AccentPhrase.flatten,
      insertRises_cons (by simp) (by simp), riseBehind_moras]

/-! ## Phonemes -/

theorem phonemeSymbols_append (moras others : List Mora) :
    phonemeSymbols (moras ++ others) = phonemeSymbols moras ++ phonemeSymbols others :=
  List.flatMap_append

section

variable (symbols : SymbolTable)

theorem ids_append (kind : SymbolKind) (names others : List String) :
    symbols.ids kind (names ++ others) = (do
      let front ← symbols.ids kind names
      let back ← symbols.ids kind others
      pure (front ++ back)) :=
  List.mapM_append

variable {symbols}

/-- The number of a rise is that of the vowel before it. -/
theorem ids_upspeak {p : AccentPhrase} {said : List Int}
    (known : symbols.ids .phoneme (phonemeSymbols p.moras) = .ok said) :
    symbols.ids .phoneme (phonemeSymbols p.upspeak?.toList) = .ok (p.riseBehind id said) := by
  unfold AccentPhrase.riseBehind
  split
  case isTrue rising =>
    obtain ⟨init, last, same, risen⟩ := AccentPhrase.exists_last_of_isRising rising
    have phonemes : phonemeSymbols p.moras =
        phonemeSymbols init ++ last.consonant.toList ++ [last.vowel] := by
      rw [same, phonemeSymbols_append, List.append_assoc]
      simp [phonemeSymbols, Mora.phonemes]
    rw [phonemes, ids_append] at known
    obtain ⟨front, -, known⟩ := except_bind_eq_ok_iff.1 known
    obtain ⟨back, vowel, ⟨⟩⟩ := except_bind_eq_ok_iff.1 known
    obtain ⟨n, _, -, ⟨⟩, rfl⟩ := mapM_cons_eq_ok_iff.1 vowel
    rw [risen, List.reverse_nil, List.getLast?_concat]
    exact vowel
  case isFalse level =>
    rw [AccentPhrase.upspeak?_of_not_isRising (Bool.eq_false_iff.2 level)]
    rfl

theorem length_of_ids {moras : List Mora} {ids : List Int}
    (known : symbols.ids .phoneme (phonemeSymbols moras) = .ok ids) :
    ids.length = (moras.map Mora.phonemeCount).sum := by
  rw [length_eq_of_mapM_eq_ok known, length_phonemeSymbols]

variable (symbols)

theorem ids_withUpspeak (phrases : List AccentPhrase) :
    symbols.ids .phoneme (phonemeSymbols (flattenMoras (withUpspeak phrases))) =
      (symbols.ids .phoneme (phonemeSymbols (flattenMoras phrases))).map
        (insertRises Mora.phonemeCount id phrases) := by
  induction phrases with
  | nil => rfl
  | cons p rest ih =>
    rw [flattenMoras_withUpspeak_cons, flattenMoras_cons, AccentPhrase.flatten]
    simp only [phonemeSymbols_append, ids_append, ih]
    -- The first fault of the phrase without its rise is the first one with it.
    cases said : symbols.ids .phoneme (phonemeSymbols p.moras) with
    | error fault => rfl
    | ok saidIds =>
      rw [ids_upspeak said]
      cases silence : symbols.ids .phoneme (phonemeSymbols p.pause.toList) with
      | error fault => rfl
      | ok pauseIds =>
        cases symbols.ids .phoneme (phonemeSymbols (flattenMoras rest)) with
        | error fault => rfl
        | ok restIds =>
          exact congrArg Except.ok
            (insertRises_cons (length_of_ids said) (length_of_ids silence) rest restIds).symm

end

/-! ## Encodings -/

section

variable {symbols : SymbolTable} {phrases : List AccentPhrase}
  (marks : ∀ mark : AccentMark, mark.symbol ∈ symbols.accents)

include marks

theorem exists_accentIds (phrases : List AccentPhrase) :
    ∃ ids, symbols.ids .accent (accentSymbols phrases) = .ok ids := by
  refine SymbolTable.exists_ids fun symbol mem => ?_
  obtain ⟨mark, -, rfl⟩ := List.mem_map.1 mem
  exact marks mark

theorem encode_eq_error_iff {fault : Fault} :
    encode symbols phrases = .error fault ↔
      symbols.ids .phoneme (phonemeSymbols (flattenMoras phrases)) = .error fault := by
  obtain ⟨accentIds, accents⟩ := exists_accentIds marks phrases
  unfold encode
  simp only [except_bind_eq_error_iff, accents]
  simp

theorem exists_encode_iff :
    (∃ c, encode symbols phrases = .ok c) ↔
      ∃ ids, symbols.ids .phoneme (phonemeSymbols (flattenMoras phrases)) = .ok ids := by
  obtain ⟨accentIds, accents⟩ := exists_accentIds marks phrases
  constructor
  · rintro ⟨c, encoded⟩
    exact ⟨c.phonemeIds, (encode_eq_ok_iff.1 encoded).2.1⟩
  · rintro ⟨ids, known⟩
    exact ⟨⟨flattenMoras phrases, ids, accentIds⟩, encode_eq_ok_iff.2 ⟨rfl, known, accents⟩⟩

end

/-- Counting morae or counting phonemes, there is one more for each rising phrase. -/
theorem sum_flattenMoras_withUpspeak (size : Mora → Nat)
    (one : ∀ last : Mora, size last.upspeak = 1) (phrases : List AccentPhrase) :
    ((flattenMoras (withUpspeak phrases)).map size).sum =
      ((flattenMoras phrases).map size).sum + phrases.countP AccentPhrase.isRising := by
  have rise (p : AccentPhrase) :
      (p.upspeak?.toList.map size).sum = if p.isRising then 1 else 0 := by
    split
    case isTrue rising =>
      obtain ⟨_, last, -, risen⟩ := AccentPhrase.exists_last_of_isRising rising
      rw [risen, Option.toList_some, List.map_singleton, List.sum_singleton, one]
    case isFalse level =>
      rw [AccentPhrase.upspeak?_of_not_isRising (Bool.eq_false_iff.2 level)]
      rfl
  induction phrases with
  | nil => rfl
  | cons p rest ih =>
    rw [flattenMoras_withUpspeak_cons, flattenMoras_cons, AccentPhrase.flatten, List.countP_cons]
    simp only [List.map_append, List.sum_append, rise, ih]
    omega

/-- How the encoding of phrases is changed by rises. -/
structure OnlyInserts (symbols : SymbolTable) (phrases : List AccentPhrase) : Prop where
  /-- Rises make no fault and mend none. -/
  fault : ∀ fault,
    encode symbols (withUpspeak phrases) = .error fault ↔ encode symbols phrases = .error fault
  /-- The only fault is a phoneme that is not known. -/
  unknown : ∀ fault, encode symbols phrases = .error fault →
    ∃ symbol, fault = .unknownSymbol .phoneme symbol
  succeeds : (∃ c', encode symbols (withUpspeak phrases) = .ok c') ↔
    ∃ c, encode symbols phrases = .ok c
  /-- One mora and one number come in for each rising phrase, before its pause. -/
  inserted : ∀ c c', encode symbols phrases = .ok c →
    encode symbols (withUpspeak phrases) = .ok c' →
      c'.moras = insertRises (fun _ => 1) Mora.upspeak phrases c.moras ∧
      c'.phonemeIds = insertRises Mora.phonemeCount id phrases c.phonemeIds
  counted : ∀ c c', encode symbols phrases = .ok c →
    encode symbols (withUpspeak phrases) = .ok c' →
      c'.moras.length = c.moras.length + phrases.countP AccentPhrase.isRising ∧
      c'.phonemeIds.length = c.phonemeIds.length + phrases.countP AccentPhrase.isRising
  /-- There is still an accent mark for each phoneme. -/
  aligned : ∀ c c', encode symbols phrases = .ok c →
    encode symbols (withUpspeak phrases) = .ok c' →
      c.accentIds.length = c.phonemeIds.length ∧ c'.accentIds.length = c'.phonemeIds.length
  /-- A rising phrase gets a mora, -/
  risen : ∀ p ∈ phrases, p.isRising → ∃ last rise, p.moras.getLast? = some last ∧
    rise.IsRiseOf last ∧ p.withUpspeak = { p with moras := p.moras ++ [rise] }
  /-- and all other phrases stay as they are, -/
  level : ∀ p ∈ phrases, p.isRising = false → p.withUpspeak = p
  /-- among them those that end without voice, whatever pitches are placed. -/
  voiceless : ∀ values placed, withPitches phrases values = .ok placed → ∀ p ∈ placed,
    (∀ last ∈ p.moras.getLast?, isVoiceless last.vowel) → p.withUpspeak = p

/-- All that rises do to the encoding of phrases is to come in, if no pause carries a consonant and
the table has all accent symbols. -/
theorem onlyInserts_withUpspeak {symbols : SymbolTable} {phrases : List AccentPhrase}
    (bare : ∀ p ∈ phrases, p.HasBarePause)
    (marks : ∀ mark : AccentMark, mark.symbol ∈ symbols.accents) :
    OnlyInserts symbols phrases := by
  constructor
  case fault =>
    intro fault
    rw [encode_eq_error_iff marks, encode_eq_error_iff marks, ids_withUpspeak]
    cases symbols.ids .phoneme (phonemeSymbols (flattenMoras phrases)) with
    | error fault' => exact Iff.rfl
    | ok ids => exact ⟨nofun, nofun⟩
  case unknown =>
    intro fault failed
    exact (failsOnly_ids ..).fault ((encode_eq_error_iff marks).1 failed)
  case succeeds =>
    rw [exists_encode_iff marks, exists_encode_iff marks, ids_withUpspeak]
    cases symbols.ids .phoneme (phonemeSymbols (flattenMoras phrases)) with
    | error fault => exact ⟨nofun, nofun⟩
    | ok ids => exact ⟨fun _ => ⟨_, rfl⟩, fun _ => ⟨_, rfl⟩⟩
  case inserted =>
    intro c c' encoded risen
    obtain ⟨moras, known, -⟩ := encode_eq_ok_iff.1 encoded
    obtain ⟨moras', known', -⟩ := encode_eq_ok_iff.1 risen
    rw [ids_withUpspeak, known] at known'
    exact ⟨by rw [moras', moras, flattenMoras_withUpspeak], (Except.ok.inj known').symm⟩
  case counted =>
    intro c c' encoded risen
    obtain ⟨moras, known, -⟩ := encode_eq_ok_iff.1 encoded
    obtain ⟨moras', known', -⟩ := encode_eq_ok_iff.1 risen
    constructor
    · have lengths := sum_flattenMoras_withUpspeak (fun _ => 1) (fun _ => rfl) phrases
      simpa [moras, moras'] using lengths
    · rw [length_of_ids known, length_of_ids known',
        sum_flattenMoras_withUpspeak Mora.phonemeCount fun _ => rfl]
  case aligned =>
    intro c c' encoded risen
    have bare' := hasBarePause_withUpspeak bare
    exact ⟨(length_accentIds bare encoded).trans (length_phonemeIds encoded).symm,
      (length_accentIds bare' risen).trans (length_phonemeIds risen).symm⟩
  case risen =>
    intro p _ rising
    obtain ⟨init, last, same, risen⟩ := AccentPhrase.exists_last_of_isRising rising
    refine ⟨last, last.upspeak, by rw [same, List.getLast?_concat], last.isRiseOf_upspeak, ?_⟩
    rw [AccentPhrase.withUpspeak, risen, Option.toList_some]
  case level => exact fun p _ level => AccentPhrase.withUpspeak_of_not_isRising level
  case voiceless =>
    exact fun values placed tuned p mem last => withUpspeak_of_isVoiceless tuned mem last

/-- A question of one mora with a pause behind it. -/
def shortQuestion : AccentPhrase where
  moras := [{ Mora.plain "カ" (some "k") "a" with pitch := 6 }]
  accent := 1
  pause := some .pause
  isQuestion := true

/-- The vowel is repeated before the pause. -/
theorem onlyInserts_shortQuestion :
    (∀ p ∈ [shortQuestion], p.HasBarePause) ∧
    (∀ mark : AccentMark, mark.symbol ∈ SymbolTable.builtIn.accents) ∧
    ∃ c', encode .builtIn (withUpspeak [shortQuestion]) = .ok c' ∧
      c'.phonemeIds = [23, 7, 7, 0] ∧ c'.accentIds.length = 4 := by
  have bare : ∀ p ∈ [shortQuestion], p.HasBarePause := by
    simp [shortQuestion, AccentPhrase.HasBarePause, Mora.pause, Mora.plain]
  have inserts := onlyInserts_withUpspeak bare AccentMark.symbol_mem_builtIn
  have encoded : encode .builtIn [shortQuestion] =
      .ok ⟨flattenMoras [shortQuestion], [23, 7, 0], [0, 1, 3]⟩ := rfl
  obtain ⟨c', risen⟩ := inserts.succeeds.2 ⟨_, encoded⟩
  obtain ⟨-, ids⟩ := inserts.inserted _ _ encoded risen
  have repeated : c'.phonemeIds = [23, 7, 7, 0] := by
    rw [ids]
    decide +kernel
  refine ⟨bare, AccentMark.symbol_mem_builtIn, c', risen, repeated, ?_⟩
  rw [(inserts.aligned _ _ encoded risen).2, repeated]
  rfl

end KanaVoice
