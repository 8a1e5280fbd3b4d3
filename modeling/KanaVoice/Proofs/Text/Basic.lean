import Mathlib
import KanaVoice.Text.LowerCase
set_option autoImplicit false

/-!
# Texts and their bytes

Texts are ordered, cut and compared by their bytes, and words are looked up in lower case.
-/

namespace KanaVoice.Text

/-! ## The order of texts

Texts are ordered by the code points of their characters.  That is also the order of their bytes in
UTF-8: of two characters the one with the smaller code point has the smaller bytes, whatever
follows either of them.  So a list of names in ascending order is in ascending order of their bytes,
and no two texts have the same bytes. -/

/-- The bytes of a text in UTF-8. -/
def bytes (text : String) : List UInt8 := text.toUTF8.data.toList

theorem bytes_eq (text : String) :
    bytes text = text.toList.flatMap String.utf8EncodeChar := by
  unfold bytes
  conv_lhs => rw [← String.ofList_toList (s := text)]
  rw [String.toUTF8_eq_toByteArray, String.toByteArray_ofList]
  exact List.toList_data_toByteArray

/-! ### Characters -/

theorem toNat_val_lt (c : Char) : c.val.toNat < 0x110000 := by
  rcases c.valid with low | high
  · have small : c.val.toNat < 0xD800 := low
    omega
  · exact high.2

/-- The bytes of a smaller character come first, whatever follows. -/
theorem utf8EncodeChar_append_lt {c d : Char} (h : c < d) (rest other : List UInt8) :
    String.utf8EncodeChar c ++ rest < String.utf8EncodeChar d ++ other := by
  have smaller : c.val.toNat < d.val.toNat := h
  have bound := toNat_val_lt d
  rw [String.utf8EncodeChar.eq_1, String.utf8EncodeChar.eq_1]
  generalize c.val.toNat = m at smaller
  generalize d.val.toNat = n at smaller bound
  -- An encoding of more bytes has a greater first byte; bytes of encodings of one length are the
  -- digits of the code points to the base 64.
  split_ifs <;>
    simp only [List.cons_append, List.nil_append, List.cons_lt_cons_iff, UInt8.lt_iff_toNat_lt,
      ← UInt8.toNat_inj, UInt8.toNat_ofNat'] <;>
    simp (disch := omega) only [Nat.mod_eq_of_lt] <;>
    omega

/-! ### Texts -/

theorem flatMap_utf8EncodeChar_lt {l m : List Char} (h : l < m) :
    l.flatMap String.utf8EncodeChar < m.flatMap String.utf8EncodeChar := by
  induction h with
  | @nil d m =>
    obtain ⟨first, more, same⟩ :=
      List.exists_cons_of_ne_nil (String.utf8EncodeChar_ne_nil (c := d))
    rw [List.flatMap_nil, List.flatMap_cons, same]
    exact List.nil_lt_cons _ _
  | @rel c l d m smaller =>
    rw [List.flatMap_cons, List.flatMap_cons]
    exact utf8EncodeChar_append_lt smaller _ _
  | @cons c l m _ ih =>
    rw [List.flatMap_cons, List.flatMap_cons]
    exact List.append_left_lt ih

theorem bytes_lt_of_lt {text other : String} (h : text < other) : bytes text < bytes other := by
  rw [bytes_eq, bytes_eq]
  exact flatMap_utf8EncodeChar_lt (String.lt_iff_toList_lt.1 h)

/-- The order of texts is the order of their bytes. -/
theorem bytes_lt_iff {text other : String} : bytes text < bytes other ↔ text < other := by
  constructor
  · intro h
    rcases lt_trichotomy text other with below | same | above
    · exact below
    · rw [same] at h
      exact absurd h (List.lt_irrefl _)
    · exact absurd h (List.lt_asymm (bytes_lt_of_lt above))
  · exact bytes_lt_of_lt

/-! ### Equal bytes -/

theorem bytes_append (text other : String) : bytes (text ++ other) = bytes text ++ bytes other := by
  rw [bytes_eq, bytes_eq, bytes_eq, String.toList_append, List.flatMap_append]

/-- Other texts have other bytes. -/
theorem bytes_inj {text other : String} : bytes text = bytes other ↔ text = other := by
  constructor
  · intro same
    rcases lt_trichotomy text other with below | equal | above
    · exact absurd (same ▸ bytes_lt_iff.2 below) (List.lt_irrefl _)
    · exact equal
    · exact absurd (same ▸ bytes_lt_iff.2 above) (List.lt_irrefl _)
  · exact congrArg bytes

/-! ## Cutting texts by bytes

A text can be cut behind a number of its bytes only where one character ends and the next begins.
Such a place is the end of one text in front of another, and the number of bytes says which texts
these are. -/

section

/-- The text behind its first bytes, `size` in number; none if these end within a character or
there are not as many. -/
def cut? (text : String) (size : Nat) : Option String :=
  if valid : String.Pos.Raw.IsValid text ⟨size⟩ then
    some (text.sliceFrom (text.pos ⟨size⟩ valid)).copy
  else none

variable {first rest first' rest' : String}

theorem isValid_append (first rest : String) :
    String.Pos.Raw.IsValid (first ++ rest) ⟨first.utf8ByteSize⟩ :=
  String.Pos.Raw.isValid_iff_exists_append.2 ⟨first, rest, rfl, rfl⟩

/-- Where a text is cut is known by the number of bytes in front. -/
theorem append_inj_of_size (same : first ++ rest = first' ++ rest')
    (size : first.utf8ByteSize = first'.utf8ByteSize) : first = first' ∧ rest = rest' := by
  have splits : ((first ++ rest).pos ⟨first.utf8ByteSize⟩ (isValid_append first rest)).Splits
      first rest := String.Pos.splits_append_rawEndPos
  have splits' : ((first ++ rest).pos ⟨first.utf8ByteSize⟩ (isValid_append first rest)).Splits
      first' rest' := ⟨same, congrArg String.Pos.Raw.mk size⟩
  exact ⟨splits.eq_left splits', splits.eq_right splits'⟩

theorem cut?_append (first rest : String) :
    cut? (first ++ rest) first.utf8ByteSize = some rest := by
  rw [cut?, dif_pos (isValid_append first rest)]
  exact congrArg some String.Pos.splits_append_rawEndPos.copy_sliceFrom_eq

end

/-! ## Lower case of ASCII text

A text without capital sigmas is mapped character by character.  Of the letters whose lower-case
form is another one only `A` to `Z` are ASCII, so ASCII text is mapped as `Char.toLower` maps it. -/

/-- Without a capital sigma no character's form depends on its neighbours. -/
theorem lowerFrom_eq_flatMap {cs : List Char} (h : 'Σ' ∉ cs) (before : List Char) :
    lowerFrom before cs = cs.flatMap lowerChar := by
  induction cs generalizing before with
  | nil => rfl
  | cons c rest ih =>
    have other : c ≠ 'Σ' := by
      rintro rfl
      exact h (by simp)
    have later : 'Σ' ∉ rest := fun mem => h (by simp [mem])
    rw [lowerFrom, List.flatMap_cons, ih later]
    simp only [if_neg other]

theorem lowerRuns_eq_cons :
    ∃ rest, lowerRuns = ⟨0x41, 0x5a, 1, 32⟩ :: rest ∧ ∀ run ∈ rest, 128 ≤ run.first :=
  ⟨_, rfl, by decide +kernel⟩

theorem find?_lowerRuns {code : Nat} (ascii : code < 128) :
    lowerRuns.find? (·.has code) =
      if 0x41 ≤ code ∧ code ≤ 0x5a then some ⟨0x41, 0x5a, 1, 32⟩ else none := by
  obtain ⟨rest, same, beyond⟩ := lowerRuns_eq_cons
  have none : rest.find? (·.has code) = none := by
    refine List.find?_eq_none.2 fun run mem => ?_
    have := beyond run mem
    simp [LowerRun.has]
    omega
  have first : LowerRun.has ⟨0x41, 0x5a, 1, 32⟩ code = decide (0x41 ≤ code ∧ code ≤ 0x5a) := by
    simp [LowerRun.has, Nat.mod_one]
  rw [same, List.find?_cons, none, first]
  by_cases letter : 0x41 ≤ code ∧ code ≤ 0x5a
  · simp [letter]
  · simp [letter]

theorem toLower_of_letter {c : Char} (first : 0x41 ≤ c.toNat) (last : c.toNat ≤ 0x5a) :
    c.toLower = Char.ofNat (c.toNat + 32) := by
  have letters : ∀ place < 26, (Char.ofNat (0x41 + place)).toLower =
      Char.ofNat (0x41 + place + 32) := by decide
  have letter := letters (c.toNat - 0x41) (by omega)
  rwa [Nat.add_sub_of_le first, Char.ofNat_toNat] at letter

theorem toLower_of_other {c : Char} (h : ¬ (0x41 ≤ c.toNat ∧ c.toNat ≤ 0x5a)) :
    c.toLower = c :=
  dif_neg h

theorem lowerChar_of_ascii {c : Char} (ascii : c.toNat < 128) : lowerChar c = [c.toLower] := by
  have other : c ≠ 'İ' := by
    rintro rfl
    exact absurd ascii (by decide)
  rw [lowerChar, if_neg other, find?_lowerRuns ascii]
  by_cases letter : 0x41 ≤ c.toNat ∧ c.toNat ≤ 0x5a
  · rw [if_pos letter, toLower_of_letter letter.1 letter.2]
    rfl
  · rw [if_neg letter, toLower_of_other letter]

theorem lowerCase_of_ascii {s : String} (ascii : ∀ c ∈ s.toList, c.toNat < 128) :
    lowerCase s = String.ofList (s.toList.map Char.toLower) := by
  have noSigma : 'Σ' ∉ s.toList := fun mem => absurd (ascii _ mem) (by decide)
  have each : s.toList.flatMap lowerChar = s.toList.flatMap fun c => [c.toLower] :=
    List.flatMap_congr fun c mem => lowerChar_of_ascii (ascii c mem)
  rw [lowerCase, lowerFrom_eq_flatMap noSigma, each, ← List.map_eq_flatMap]

end KanaVoice.Text
