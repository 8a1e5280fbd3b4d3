import KanaVoice.Json.Reader
import KanaVoice.Proofs.Except
set_option autoImplicit false

/-!
# Texts between quotes

Every character has one written form inside a string, and this form is read as the character, so a
text is read as it was written whatever characters it holds.  No character is half of a surrogate
pair, which is why the code points that are read are never joined.
-/

namespace KanaVoice.Json

/-! ## Characters -/

theorem readUnits_of_plain {c : Char} (quote : c ≠ '"') (backslash : c ≠ '\\')
    (visible : ¬ c.toNat < 0x20) (text : List Char) :
    readUnits (c :: text) = (readUnits text).map fun r => (c.toNat :: r.1, r.2) := by
  rw [readUnits.eq_def]
  split
  case h_1 same => exact absurd (List.cons.inj same).1 quote
  case h_2 same => exact absurd (List.cons.inj same).1 backslash
  case h_3 same => exact absurd (List.cons.inj same).1 backslash
  case h_4 same =>
    obtain ⟨rfl, rfl⟩ := List.cons.inj same
    rw [if_neg visible]
    cases readUnits text <;> rfl
  case h_5 same => cases same

theorem readUnits_of_escapeValue? {e : Char} {n : Nat} (value : escapeValue? e = some n)
    (text : List Char) :
    readUnits ('\\' :: e :: text) = (readUnits text).map fun r => (n :: r.1, r.2) := by
  rw [readUnits.eq_def]
  split
  case h_1 same => cases (List.cons.inj same).1
  case h_2 same =>
    obtain ⟨-, rest⟩ := List.cons.inj same
    obtain ⟨rfl, -⟩ := List.cons.inj rest
    cases value
  case h_3 same =>
    obtain ⟨-, rest⟩ := List.cons.inj same
    obtain ⟨rfl, rfl⟩ := List.cons.inj rest
    rw [value]
    cases readUnits text <;> rfl
  case h_4 other same =>
    obtain ⟨rfl, rfl⟩ := List.cons.inj same
    exact absurd rfl (other e text rfl)
  case h_5 same => cases same

theorem readUnits_of_hexUnit? {a b c d : Char} {n : Nat} (value : hexUnit? a b c d = some n)
    (text : List Char) :
    readUnits ('\\' :: 'u' :: a :: b :: c :: d :: text) =
      (readUnits text).map fun r => (n :: r.1, r.2) := by
  rw [readUnits, value]
  cases readUnits text <;> rfl

theorem hexUnit?_control : ∀ n < 0x20,
    hexUnit? '0' '0' (Nat.digitChar (n / 16)) (Nat.digitChar (n % 16)) = some n := by
  decide

/-- A written character is read as its code point. -/
theorem readUnits_escapeChar (c : Char) (text : List Char) :
    readUnits (escapeChar c ++ text) = (readUnits text).map fun r => (c.toNat :: r.1, r.2) := by
  unfold escapeChar
  split_ifs with quote backslash backspace tab newline formFeed return' control
  · subst quote
    exact readUnits_of_escapeValue? rfl text
  · subst backslash
    exact readUnits_of_escapeValue? rfl text
  · subst backspace
    exact readUnits_of_escapeValue? rfl text
  · subst tab
    exact readUnits_of_escapeValue? rfl text
  · subst newline
    exact readUnits_of_escapeValue? rfl text
  · subst formFeed
    exact readUnits_of_escapeValue? rfl text
  · subst return'
    exact readUnits_of_escapeValue? rfl text
  · exact readUnits_of_hexUnit? (hexUnit?_control c.toNat control) text
  · exact readUnits_of_plain quote backslash control text

/-! ## Texts -/

theorem readUnits_stringChars (chars rest : List Char) :
    readUnits (chars.flatMap escapeChar ++ '"' :: rest) = some (chars.map Char.toNat, rest) := by
  induction chars with
  | nil => rfl
  | cons c chars ih =>
    rw [List.flatMap_cons, List.append_assoc, readUnits_escapeChar, ih]
    rfl

theorem not_isSurrogate (c : Char) : isLeading c.toNat = false ∧ isTrailing c.toNat = false := by
  have valid : c.toNat < 0xd800 ∨ 0xdfff < c.toNat ∧ c.toNat < 0x110000 := c.valid
  unfold isLeading isTrailing
  simp only [Bool.and_eq_false_iff, decide_eq_false_iff_not]
  omega

theorem joinUnits_cons (c : Char) (units : List Nat) :
    joinUnits (c.toNat :: units) = (joinUnits units).map (c :: ·) := by
  obtain ⟨leading, trailing⟩ := not_isSurrogate c
  cases units with
  | nil => simp [joinUnits, leading, trailing]
  | cons unit units => simp [joinUnits, leading, trailing]

theorem joinUnits_map_toNat (chars : List Char) : joinUnits (chars.map Char.toNat) = some chars := by
  induction chars with
  | nil => rfl
  | cons c chars ih => rw [List.map_cons, joinUnits_cons, ih, Option.map_some]

/-- A text is read as it was written. -/
theorem readString_stringChars (s : String) (rest : List Char) :
    readString (s.toList.flatMap escapeChar ++ '"' :: rest) = some (some s, rest) := by
  unfold readString
  rw [readUnits_stringChars]
  simp [joinUnits_map_toNat]

end KanaVoice.Json
