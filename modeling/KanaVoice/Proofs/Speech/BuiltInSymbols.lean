import KanaVoice.Proofs.Speech.WellFormed
import KanaVoice.Proofs.Speech.WithoutProsody
set_option autoImplicit false

/-!
# Phrases in built-in symbols

The built-in lists have every phoneme that notation is read as, and every accent symbol there is.
Lengths and pitches are not symbols, and a rise repeats a vowel of its phrase, so what was read
keeps to the built-in symbols whatever prosody it is given.
-/

namespace KanaVoice

/-! ## Phonemes of a phrase -/

theorem mem_phonemeSymbols {phrases : List AccentPhrase} {symbol : String} :
    symbol ∈ phonemeSymbols (flattenMoras phrases) ↔
      ∃ p ∈ phrases, ∃ m ∈ p.flatten, symbol ∈ m.phonemes := by
  simp only [phonemeSymbols, flattenMoras, List.mem_flatMap]
  tauto

/-- A rise has no phoneme but the vowel of the mora that it follows. -/
theorem AccentPhrase.exists_mora_of_upspeak {p : AccentPhrase} {rise : Mora}
    (h : rise ∈ p.upspeak?) : ∃ m ∈ p.flatten, ∀ symbol ∈ rise.phonemes, symbol ∈ m.phonemes := by
  obtain ⟨last, isLast, same⟩ := Option.bind_eq_some_iff.1 h
  split at same
  case isTrue =>
    cases same
    refine ⟨last, List.mem_append_left _ (List.mem_of_getLast? isLast), fun symbol mem => ?_⟩
    exact List.mem_append_right _ mem
  case isFalse => cases same

theorem phonemeSymbols_withUpspeak (phrases : List AccentPhrase) :
    phonemeSymbols (flattenMoras (withUpspeak phrases)) ⊆
      phonemeSymbols (flattenMoras phrases) := by
  intro symbol mem
  obtain ⟨q, mem', m, inside, isPhoneme⟩ := mem_phonemeSymbols.1 mem
  obtain ⟨p, listed, rfl⟩ := List.mem_map.1 mem'
  refine mem_phonemeSymbols.2 ⟨p, listed, ?_⟩
  rcases AccentPhrase.mem_flatten_withUpspeak inside with old | rise
  · exact ⟨m, old, isPhoneme⟩
  · obtain ⟨m', own, phonemes⟩ := AccentPhrase.exists_mora_of_upspeak rise
    exact ⟨m', own, phonemes symbol isPhoneme⟩

/-- Phrases get no phonemes by being given prosody. -/
theorem Adjusted.phonemeSymbols_subset {phrases adjusted : List AccentPhrase}
    (h : Adjusted phrases adjusted) :
    phonemeSymbols (flattenMoras adjusted) ⊆ phonemeSymbols (flattenMoras phrases) := by
  induction h with
  | none => exact List.Subset.refl _
  | lengths _ run ih =>
    rw [(sameSymbols_of_withLengths run).phonemes]
    exact ih
  | pitches _ run ih =>
    rw [(sameSymbols_of_withPitches run).phonemes]
    exact ih
  | upspeak _ ih => exact List.Subset.trans (phonemeSymbols_withUpspeak _) ih

/-! ## Built-in symbols -/

theorem AccentMark.symbol_mem_builtIn (mark : AccentMark) :
    mark.symbol ∈ SymbolTable.builtIn.accents := by
  cases mark <;> decide

theorem Kana.phonemes_mem_builtIn : ∀ e ∈ Kana.table,
    (∀ symbol ∈ e.consonant, symbol ∈ SymbolTable.builtIn.phonemes) ∧
    e.vowel ∈ SymbolTable.builtIn.phonemes ∧
    (e.vowel ∈ Kana.voicedVowels → e.vowel.toUpper ∈ SymbolTable.builtIn.phonemes) := by
  decide +kernel

theorem Mora.IsNotated.phonemes_mem_builtIn {m : Mora} (h : m.IsNotated) :
    ∀ symbol ∈ m.phonemes, symbol ∈ SymbolTable.builtIn.phonemes := by
  obtain ⟨e, mem, same⟩ := h
  obtain ⟨consonant, vowel, devoiced⟩ := Kana.phonemes_mem_builtIn e mem
  have parts : (∀ symbol ∈ m.consonant, symbol ∈ SymbolTable.builtIn.phonemes) ∧
      m.vowel ∈ SymbolTable.builtIn.phonemes := by
    rcases same with rfl | ⟨voiced, rfl⟩
    · exact ⟨consonant, vowel⟩
    · exact ⟨consonant, devoiced voiced⟩
  intro symbol isPhoneme
  rcases List.mem_append.1 isPhoneme with first | last
  · exact parts.1 symbol (Option.mem_toList.1 first)
  · exact List.mem_singleton.1 last ▸ parts.2

/-- The table has every symbol of the phrases. -/
structure SymbolTable.Covers (t : SymbolTable) (phrases : List AccentPhrase) : Prop where
  phonemes : ∀ symbol ∈ phonemeSymbols (flattenMoras phrases), symbol ∈ t.phonemes
  accents : ∀ symbol ∈ accentSymbols phrases, symbol ∈ t.accents

theorem SymbolTable.Covers.exists_encode {t : SymbolTable} {phrases : List AccentPhrase}
    (h : t.Covers phrases) : ∃ c, encode t phrases = .ok c := by
  have ⟨phonemeIds, phonemes⟩ : ∃ ids, t.ids .phoneme (phonemeSymbols (flattenMoras phrases)) =
      .ok ids := exists_ids h.phonemes
  have ⟨accentIds, accents⟩ : ∃ ids, t.ids .accent (accentSymbols phrases) = .ok ids :=
    exists_ids h.accents
  exact ⟨⟨flattenMoras phrases, phonemeIds, accentIds⟩,
    encode_eq_ok_iff.2 ⟨rfl, phonemes, accents⟩⟩

theorem Kana.Canonical.covers_adjusted {phrases adjusted : List AccentPhrase}
    (h : Kana.Canonical phrases) (chain : Adjusted phrases adjusted) :
    SymbolTable.builtIn.Covers adjusted where
  phonemes symbol mem := by
    obtain ⟨p, listed, m, inside, isPhoneme⟩ :=
      mem_phonemeSymbols.1 (chain.phonemeSymbols_subset mem)
    have canonical := h.each p listed
    rcases List.mem_append.1 inside with mora | silence
    · exact (canonical.notated m mora).phonemes_mem_builtIn symbol isPhoneme
    · rcases canonical.pause with none | some
      · rw [none] at silence
        cases silence
      · rw [some] at silence
        rw [List.mem_singleton.1 silence] at isPhoneme
        rw [List.mem_singleton.1 isPhoneme]
        decide
  accents symbol mem := by
    obtain ⟨mark, -, rfl⟩ := List.mem_map.1 mem
    exact mark.symbol_mem_builtIn

end KanaVoice
