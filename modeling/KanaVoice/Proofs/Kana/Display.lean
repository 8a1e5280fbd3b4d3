import KanaVoice.Proofs.Kana.Phonemes
set_option autoImplicit false

/-!
# Kana for display

Any word may be asked for its kana.  The table is searched by bytes: an entry fits a word that is as
long as its phonemes, begins with its consonant and ends with its vowel.  Such a word is the
entry's phonemes, since neither part can reach into the other, so at most one entry fits, and it is
the one that has the word in lower case for its phonemes.  A word that no entry fits is displayed in
lower case, and so is not always displayed as it is.
-/

namespace KanaVoice

namespace Kana

/-- The word has the length of the entry's phonemes, starts with its consonant and ends with its
vowel. -/
def Entry.Fits (e : Entry) (word : String) : Prop :=
  (Text.bytes word).length =
      (Text.bytes (e.consonant.getD "")).length + (Text.bytes e.vowel).length ∧
    Text.bytes (e.consonant.getD "") <+: Text.bytes word ∧ Text.bytes e.vowel <:+ Text.bytes word

instance (e : Entry) (word : String) : Decidable (e.Fits word) :=
  inferInstanceAs (Decidable (_ ∧ _ ∧ _))

theorem Entry.fits_iff {e : Entry} {word : String} : e.Fits word ↔ e.phonemes = word := by
  rw [← Text.bytes_inj, Entry.phonemes, Text.bytes_append]
  constructor
  · rintro ⟨length, ⟨rest, starts⟩, ends⟩
    -- What follows the consonant is as long as the vowel, and both end the word.
    have short : rest.length = (Text.bytes e.vowel).length := by
      rw [← starts, List.length_append] at length
      omega
    have same : rest = Text.bytes e.vowel :=
      (List.suffix_of_suffix_length_le ⟨_, starts⟩ ends short.le).eq_of_length short
    rw [← same, starts]
  · intro same
    rw [Entry.Fits, ← same, List.length_append]
    exact ⟨rfl, List.prefix_append _ _, List.suffix_append _ _⟩

/-! ## The entry of a word -/

/-- The word is `N` or `cl` and the entry's phonemes, or its lower case is. -/
def Entry.IsFor (e : Entry) (word : String) : Prop :=
  (word = "N" ∨ word = "cl") ∧ e.phonemes = word ∨ e.phonemes = Text.lowerCase word

instance (e : Entry) (word : String) : Decidable (e.IsFor word) :=
  inferInstanceAs (Decidable (_ ∨ _))

theorem eq_of_phonemes_eq {e other : Entry} (h : e ∈ table) (mem : other ∈ table)
    (same : e.phonemes = other.phonemes) : e = other := by
  have found := find?_phonemes e h
  rw [same, find?_phonemes other mem] at found
  exact (Option.some.inj found).symm

/-- No entry has the lower case of `N` for its phonemes, and that of `cl` is the word itself. -/
theorem Entry.isFor_iff {e : Entry} (h : e ∈ table) {word : String} :
    e.IsFor word ↔ e.phonemes = normalize word := by
  unfold Entry.IsFor normalize
  split
  case isTrue apart =>
    constructor
    · rintro (⟨-, same⟩ | same)
      · exact same
      · rcases apart with rfl | rfl
        · exact absurd same (phonemes_ne_n e h)
        · exact same
    · exact fun same => .inl ⟨apart, same⟩
  case isFalse plain =>
    constructor
    · rintro (⟨apart, -⟩ | same)
      · exact absurd apart plain
      · exact same
    · exact .inr

theorem exists_isFor_of_apart {word : String} (apart : word = "N" ∨ word = "cl") :
    ∃ e ∈ table, e.IsFor word := by
  rcases apart with rfl | rfl
  · decide +kernel
  · decide +kernel

/-! ## What is displayed -/

/-- What a word is displayed as: the kana of its entry, of which there is one for `N` and `cl` and
at most one for any word, and the word in lower case if it has none.  The entry is the one that the
search by bytes finds. -/
structure Displays (word text : String) : Prop where
  apart : word = "N" ∨ word = "cl" → ∃ e ∈ table, e.IsFor word
  unique : ∀ e ∈ table, ∀ other ∈ table, e.IsFor word → other.IsFor word → e = other
  kana : ∀ e ∈ table, e.IsFor word → text = e.kana
  unknown : (∀ e ∈ table, ¬ e.IsFor word) → text = Text.lowerCase word
  search : text = ((table.find? fun e => e.Fits (normalize word)).map Entry.kana).getD
    (normalize word)

theorem ofPhonemes_of_isFor {e : Entry} (h : e ∈ table) {word : String} (asked : e.IsFor word) :
    ofPhonemes word = e.kana := by
  unfold ofPhonemes
  rw [← (Entry.isFor_iff h).1 asked, find?_phonemes e h]

theorem ofPhonemes_of_unknown {word : String} (h : ∀ e ∈ table, ¬ e.IsFor word) :
    ofPhonemes word = Text.lowerCase word := by
  have none : table.find? (fun e => e.phonemes = normalize word) = none :=
    List.find?_eq_none.2 fun e mem => by
      simpa using mt (Entry.isFor_iff mem).2 (h e mem)
  have plain : ¬ (word = "N" ∨ word = "cl") := fun apart => by
    obtain ⟨e, mem, asked⟩ := exists_isFor_of_apart apart
    exact h e mem asked
  unfold ofPhonemes
  rw [none, normalize, if_neg plain]

theorem ofPhonemes_eq_search (word : String) :
    ofPhonemes word = ((table.find? fun e => e.Fits (normalize word)).map Entry.kana).getD
      (normalize word) := by
  simp only [Entry.fits_iff]
  unfold ofPhonemes
  split
  case h_1 e found => rw [found, Option.map_some, Option.getD_some]
  case h_2 missing => rw [missing, Option.map_none, Option.getD_none]

theorem displays_ofPhonemes (word : String) : Displays word (ofPhonemes word) where
  apart := exists_isFor_of_apart
  unique _ mem _ mem' asked asked' := eq_of_phonemes_eq mem mem'
    (((Entry.isFor_iff mem).1 asked).trans ((Entry.isFor_iff mem').1 asked').symm)
  kana _ mem asked := ofPhonemes_of_isFor mem asked
  unknown := ofPhonemes_of_unknown
  search := ofPhonemes_eq_search word

/-- A word of no entry that is displayed as another one. -/
theorem ofPhonemes_capitals :
    (∀ e ∈ table, ¬ e.IsFor "XQ") ∧ ofPhonemes "XQ" = "xq" ∧ ofPhonemes "XQ" ≠ "XQ" := by
  decide +kernel

end Kana

end KanaVoice
