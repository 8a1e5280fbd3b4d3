import KanaVoice.Proofs.Kana.RoundTrip
import KanaVoice.Proofs.Speech.Utterance
import KanaVoice.Proofs.Text.Basic
set_option autoImplicit false

/-!
# Kana by their phonemes

An analyzer gives morae by their phonemes, and the kana come from the table.  No two entries have
the same phonemes, and lower-casing takes a devoiced vowel back to that of its entry, so the kana
found for a mora is one that is read as this mora.  The phrases of an utterance of such morae are
therefore canonical: written in kana, they are read as they were.
-/

namespace KanaVoice

open Kana

/-- The phonemes are those of a kana, with the vowel as it stands there or in capitals. -/
def UtteranceMora.IsNotated (m : UtteranceMora) : Prop :=
  ∃ e ∈ table, m.consonant = e.consonant ∧
    (m.vowel = e.vowel ∨ e.vowel ∈ voicedVowels ∧ m.vowel = e.vowel.toUpper)

instance (m : UtteranceMora) : Decidable m.IsNotated :=
  inferInstanceAs (Decidable (∃ e ∈ table, m.consonant = e.consonant ∧
    (m.vowel = e.vowel ∨ e.vowel ∈ voicedVowels ∧ m.vowel = e.vowel.toUpper)))

namespace Kana

/-! ## Words -/

/-- The words that the phonemes of an entry may make, its vowel being devoiced or not. -/
def Entry.words (e : Entry) : List String :=
  (e.vowel :: (devoice? e.vowel).toList).map fun vowel => e.consonant.getD "" ++ vowel

theorem ascii_words : ∀ e ∈ table, ∀ word ∈ e.words, word.toList.all fun c => c.toNat < 128 := by
  decide +kernel

theorem toLower_words : ∀ e ∈ table, ∀ word ∈ e.words,
    word.toList.map Char.toLower = if e.vowel = "N" then ['n'] else e.phonemes.toList := by
  decide +kernel

/-- The words of an entry are the same word in lower case; that of the moraic nasal is not the one
it is looked up by. -/
theorem lowerCase_word {e : Entry} (h : e ∈ table) {word : String} (mem : word ∈ e.words) :
    Text.lowerCase word = if e.vowel = "N" then "n" else e.phonemes := by
  have ascii := ascii_words e h word mem
  rw [Text.lowerCase_of_ascii fun c mem => by simpa using List.all_eq_true.1 ascii c mem,
    toLower_words e h word mem]
  split
  · rfl
  · exact String.ofList_toList

/-! ## Looking up -/

/-- No two entries have the same phonemes. -/
theorem find?_phonemes : ∀ e ∈ table,
    table.find? (fun other => other.phonemes = e.phonemes) = some e := by
  decide +kernel

theorem phonemes_of_nasal : ∀ e ∈ table, e.vowel = "N" → e.phonemes = "N" := by decide +kernel

theorem phonemes_ne_n : ∀ e ∈ table, e.phonemes ≠ "n" := by decide +kernel

theorem ofPhonemes_phonemes {e : Entry} (h : e ∈ table) : ofPhonemes e.phonemes = e.kana := by
  have same : normalize e.phonemes = e.phonemes := by
    unfold normalize
    split
    · rfl
    case isFalse other =>
      have notNasal : e.vowel ≠ "N" := fun nasal => other (.inl (phonemes_of_nasal e h nasal))
      have plain : e.phonemes ∈ e.words := List.mem_cons_self
      rw [lowerCase_word h plain, if_neg notNasal]
  unfold ofPhonemes
  rw [same, find?_phonemes e h]

end Kana

/-! ## Analyzed morae -/

theorem UtteranceMora.text_of_word {m : UtteranceMora} {e : Kana.Entry} (h : e ∈ table)
    (word : m.consonant.getD "" ++ m.vowel ∈ e.words) : m.text = e.kana := by
  have lower := lowerCase_word h word
  unfold text
  simp only [lower]
  by_cases nasal : e.vowel = "N"
  · rw [if_pos nasal, if_pos rfl, ← phonemes_of_nasal e h nasal, ofPhonemes_phonemes h]
  · rw [if_neg nasal, if_neg (phonemes_ne_n e h), ofPhonemes_phonemes h]

theorem UtteranceMora.IsNotated.toMora {m : UtteranceMora} (h : m.IsNotated) :
    m.toMora.IsNotated := by
  obtain ⟨e, mem, consonant, vowel⟩ := h
  have word : m.consonant.getD "" ++ m.vowel ∈ e.words := by
    rw [consonant]
    refine List.mem_map_of_mem ?_
    rcases vowel with same | devoiced
    · rw [same]
      exact List.mem_cons_self
    · rw [devoice?_eq_some_iff.2 devoiced]
      exact List.mem_cons_of_mem _ (List.mem_singleton_self _)
  refine ⟨e, mem, ?_⟩
  unfold UtteranceMora.toMora
  rw [UtteranceMora.text_of_word mem word, consonant]
  rcases vowel with same | ⟨voiced, same⟩
  · exact .inl (by rw [same])
  · exact .inr ⟨voiced, by rw [same]⟩

/-! ## Utterances -/

/-- The utterance can be written in kana: its morae are those of kana, every phrase has an accent on
one of its morae, and the last breath group is not empty. -/
structure Utterance.IsNotated (u : Utterance) : Prop where
  notated : ∀ group ∈ u, ∀ p ∈ group, ∀ m ∈ p.moras, m.IsNotated
  nonempty : ∀ group ∈ u, ∀ p ∈ group, p.moras ≠ []
  accented : ∀ group ∈ u, ∀ p ∈ group, 1 ≤ p.accent ∧ p.accent ≤ p.moras.length
  last : ∀ group ∈ u.getLast?, group ≠ []

theorem UtterancePhrase.isCanonical_toAccentPhrase {p : UtterancePhrase}
    (notated : ∀ m ∈ p.moras, m.IsNotated) (nonempty : p.moras ≠ [])
    (accented : 1 ≤ p.accent ∧ p.accent ≤ p.moras.length) : p.toAccentPhrase.IsCanonical where
  nonempty := mt List.map_eq_nil_iff.1 nonempty
  accent_pos := accented.1
  accent_le := by
    rw [toAccentPhrase, List.length_map]
    exact accented.2
  notated m mem := by
    obtain ⟨m', mem', rfl⟩ := List.mem_map.1 mem
    exact (notated m' mem').toMora
  pause := .inl rfl

theorem Utterance.IsNotated.canonical {u : Utterance} (h : u.IsNotated) :
    Canonical u.toAccentPhrases where
  each q mem := by
    obtain ⟨group, inside, p, mem', same⟩ := Utterance.mem_toAccentPhrases mem
    have bare := UtterancePhrase.isCanonical_toAccentPhrase (h.notated group inside p mem')
      (h.nonempty group inside p mem') (h.accented group inside p mem')
    rcases same with rfl | rfl
    · exact bare
    · exact ⟨bare.nonempty, bare.accent_pos, bare.accent_le, bare.notated, .inr rfl⟩
  last := Utterance.pause_getLast?_toAccentPhrases h.last

/-- The phrases of an utterance that can be written in kana are read from what they are written
as. -/
theorem read_write_toAccentPhrases {u : Utterance} (h : u.IsNotated) :
    read (write u.toAccentPhrases) = .ok u.toAccentPhrases :=
  read_eq_ok_iff.2 ⟨h.canonical, rfl⟩

/-- Two breath groups, an empty one between them, and a devoiced vowel. -/
def sampleBreaths : Utterance :=
  [[⟨[⟨some "k", "o"⟩, ⟨none, "N"⟩], 1, false⟩, ⟨[⟨some "sh", "I"⟩], 1, false⟩], [],
   [⟨[⟨some "t", "a"⟩, ⟨none, "cl"⟩], 2, true⟩]]

theorem read_write_toAccentPhrases_sample :
    sampleBreaths.IsNotated ∧ write sampleBreaths.toAccentPhrases = "コ'ン/_シ'、タッ'？" ∧
      read "コ'ン/_シ'、タッ'？" = .ok sampleBreaths.toAccentPhrases := by
  have notated : sampleBreaths.IsNotated :=
    ⟨by decide +kernel, by decide, by decide, by decide⟩
  have written : write sampleBreaths.toAccentPhrases = "コ'ン/_シ'、タッ'？" := by decide +kernel
  exact ⟨notated, written, written ▸ read_write_toAccentPhrases notated⟩

end KanaVoice
