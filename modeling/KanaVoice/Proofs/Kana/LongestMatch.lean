import KanaVoice.Proofs.Kana.Table
import KanaVoice.Proofs.Text.Basic
set_option autoImplicit false

/-!
# The longest kana that starts a text

The table is searched from the front for the first kana whose bytes start the text.  Kana that take
more bytes stand before those that take fewer, and no two entries have the same kana, so the one
that is found takes more bytes than any other that starts the text.  They end where a character of
the text ends.
-/

namespace KanaVoice.Kana

/-! ## The order of the table -/

theorem table_descends : table.Pairwise fun e later =>
    later.kana.utf8ByteSize ≤ e.kana.utf8ByteSize := by
  have chain : (table.map fun e => e.kana.utf8ByteSize).IsChain (· ≥ ·) := by decide +kernel
  exact List.pairwise_map.1 (List.isChain_iff_pairwise.1 chain)

theorem eq_of_kana_eq {e other : Entry} (h : e ∈ table) (mem : other ∈ table)
    (same : e.kana = other.kana) : e = other := by
  have found := longestPrefix?_kana e h
  rw [same, longestPrefix?_kana other mem] at found
  exact (Option.some.inj found).symm

theorem consonant_ne_empty : ∀ e ∈ table, e.consonant ≠ some "" := by decide +kernel

/-! ## Kana in front of a text -/

namespace Entry

variable {e other : Entry} {text : String}

/-- The text is the entry's kana and what follows it. -/
def Starts (e : Entry) (text : String) : Prop := ∃ rest, text = e.kana ++ rest

theorem starts_iff : e.Starts text ↔ text.startsWith e.kana = true := by
  rw [String.startsWith_string_iff]
  constructor
  · rintro ⟨rest, rfl⟩
    exact ⟨rest.toList, String.toList_append.symm⟩
  · rintro ⟨rest, same⟩
    refine ⟨String.ofList rest, String.ext ?_⟩
    rw [String.toList_append, String.toList_ofList, same]

/-- Of the kana in front of a text no two take the same number of bytes. -/
theorem eq_of_starts (h : e.Starts text) (other_starts : other.Starts text) (mem : e ∈ table)
    (other_mem : other ∈ table) (size : other.kana.utf8ByteSize = e.kana.utf8ByteSize) :
    other = e := by
  obtain ⟨rest, rfl⟩ := h
  obtain ⟨rest', same⟩ := other_starts
  exact eq_of_kana_eq other_mem mem (Text.append_inj_of_size same.symm size).1

/-- The entry's kana starts the text, and any other one that does takes fewer bytes. -/
structure IsLongest (e : Entry) (text : String) : Prop where
  mem : e ∈ table
  starts : e.Starts text
  longest : ∀ other ∈ table, other.Starts text → other ≠ e →
    other.kana.utf8ByteSize < e.kana.utf8ByteSize

theorem IsLongest.eq (h : e.IsLongest text) (h' : other.IsLongest text) : other = e := by
  by_contra differ
  have shorter := h.longest other h'.mem h'.starts differ
  have longer := h'.longest e h.mem h.starts (Ne.symm differ)
  omega

end Entry

/-! ## The search -/

/-- The first entry whose kana the text starts with, byte by byte. -/
def firstMatch? (text : String) : Option Entry := table.find? fun e => text.startsWith e.kana

/-- The search by bytes finds what the search by characters does. -/
theorem firstMatch?_eq (text : String) : firstMatch? text = longestPrefix? text.toList := by
  refine List.find?_congr fun e _ => ?_
  rw [Bool.eq_iff_iff, String.startsWith_string_iff, List.isPrefixOf_iff_prefix]

theorem firstMatch?_eq_none_iff {text : String} :
    firstMatch? text = none ↔ ∀ e ∈ table, ¬ e.Starts text := by
  rw [firstMatch?, List.find?_eq_none]
  simp only [Entry.starts_iff]

/-- The first match is the longest one, since the table descends. -/
theorem isLongest_of_firstMatch? {text : String} {e : Entry} (h : firstMatch? text = some e) :
    e.IsLongest text := by
  obtain ⟨starts, before, behind, split, unmatched⟩ := List.find?_eq_some_iff_append.1 h
  have mem : e ∈ table := List.mem_of_find?_eq_some h
  have starts : e.Starts text := Entry.starts_iff.2 starts
  refine ⟨mem, starts, fun other other_mem other_starts differ => ?_⟩
  have place : other ∈ before ++ e :: behind := split ▸ other_mem
  rcases List.mem_append.1 place with earlier | later
  · have absent := unmatched other earlier
    rw [Entry.starts_iff.1 other_starts] at absent
    cases absent
  · have descends := table_descends
    rw [split, List.pairwise_append, List.pairwise_cons] at descends
    have notLonger := descends.2.1.1 other (List.mem_of_ne_of_mem differ later)
    have size := mt (Entry.eq_of_starts starts other_starts mem other_mem) differ
    omega

theorem firstMatch?_eq_some_iff {text : String} {e : Entry} :
    firstMatch? text = some e ↔ e.IsLongest text := by
  refine ⟨isLongest_of_firstMatch?, fun longest => ?_⟩
  cases found : firstMatch? text with
  | none => exact absurd longest.starts (firstMatch?_eq_none_iff.1 found e longest.mem)
  | some other => rw [longest.eq (isLongest_of_firstMatch? found)]

/-! ## What is found -/

/-- What is known of a kana in front of a text. -/
structure Found where
  kana : String
  consonant : Option String
  vowel : String
  /-- How many bytes of the text the kana takes. -/
  size : Nat
  deriving DecidableEq

/-- What the table knows of an entry's kana. -/
def Entry.found (e : Entry) : Found := ⟨e.kana, e.consonant, e.vowel, e.kana.utf8ByteSize⟩

/-- The kana that is found in front of a text. -/
def findKana? (text : String) : Option Found := (firstMatch? text).map Entry.found

theorem findKana?_eq_some_iff {text : String} {found : Found} :
    findKana? text = some found ↔ ∃ e : Entry, e.IsLongest text ∧ found = e.found := by
  rw [findKana?, Option.map_eq_some_iff]
  simp only [firstMatch?_eq_some_iff, eq_comm (a := found)]

theorem size_kana_pos {e : Entry} (h : e ∈ table) : 0 < e.kana.utf8ByteSize := by
  rw [Nat.pos_iff_ne_zero, ne_eq, String.utf8ByteSize_eq_zero_iff]
  intro empty
  exact kana_ne_nil h (by rw [empty]; rfl)

/-- What the search finds in front of a text.  It finds nothing exactly when no kana of the table
is there, else the longest that is, with the phonemes that the table has for it. -/
structure FindsLongest (text : String) : Prop where
  none_iff : findKana? text = none ↔ ∀ e ∈ table, ¬ e.Starts text
  some_iff : ∀ found, findKana? text = some found ↔ ∃ e : Entry, e.IsLongest text ∧ found = e.found
  /-- The phonemes are those of the one entry that has the kana; there is no empty consonant. -/
  phonemes : ∀ found, findKana? text = some found → found.consonant ≠ some "" ∧
    ∀ e ∈ table, e.kana = found.kana → e.consonant = found.consonant ∧ e.vowel = found.vowel
  /-- The kana takes at least one byte of the text, and no part of a character. -/
  size : ∀ found, findKana? text = some found → 0 < found.size ∧
    found.size = found.kana.utf8ByteSize ∧ String.Pos.Raw.IsValid text ⟨found.size⟩

theorem findsLongest (text : String) : FindsLongest text where
  none_iff := by rw [findKana?, Option.map_eq_none_iff, firstMatch?_eq_none_iff]
  some_iff found := findKana?_eq_some_iff
  phonemes found h := by
    obtain ⟨e, longest, rfl⟩ := findKana?_eq_some_iff.1 h
    refine ⟨consonant_ne_empty e longest.mem, fun other mem same => ?_⟩
    rw [eq_of_kana_eq mem longest.mem same]
    exact ⟨rfl, rfl⟩
  size found h := by
    obtain ⟨e, longest, rfl⟩ := findKana?_eq_some_iff.1 h
    obtain ⟨rest, rfl⟩ := longest.starts
    exact ⟨size_kana_pos longest.mem, rfl, Text.isValid_append e.kana rest⟩

end KanaVoice.Kana
