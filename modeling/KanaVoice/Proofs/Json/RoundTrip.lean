import KanaVoice.Proofs.Json.Number
import KanaVoice.Proofs.Json.Text
set_option autoImplicit false

/-!
# Values, written and read

A value whose numbers are those of the grammar and whose strings all name a text is read as it was
written.  Reading a value takes at most twice its length in fuel: an item costs one unit more than
what it holds, and there is a comma or a bracket for it.
-/

namespace KanaVoice.Json

/-- All numbers in the value are those of the grammar, and all strings name a text. -/
inductive IsPlain : Json → Prop
  | null : IsPlain .null
  | bool (b : Bool) : IsPlain (.bool b)
  | number {n : Numeral} : n.IsWritten → IsPlain (.number n)
  | string (s : String) : IsPlain (.string s)
  | array {items : List Json} : (∀ item ∈ items, IsPlain item) → IsPlain (.array items)
  | object {members : List (String × Json)} :
    (∀ member ∈ members, IsPlain member.2) → IsPlain (.object members)

/-- The value is read as it was written, with fuel for twice its length. -/
def IsReadBack (j : Json) : Prop :=
  ∀ (fuel : Nat) (rest : List Char), 2 * j.chars.length ≤ fuel → EndsValue rest →
    readValue fuel (j.chars ++ rest) = some (j, rest)

/-! ## Heads -/

theorem skipBlanks_cons {c : Char} (h : isBlank c = false) (text : List Char) :
    skipBlanks (c :: text) = c :: text :=
  List.dropWhile_cons_of_neg (by simp [h])

/-- The text starts with neither a blank nor a closing bracket. -/
def StartsValue (text : List Char) : Prop :=
  ∃ c cs, text = c :: cs ∧ isBlank c = false ∧ c ≠ ']'

theorem StartsValue.append {text : List Char} (h : StartsValue text) (rest : List Char) :
    StartsValue (text ++ rest) := by
  obtain ⟨c, cs, rfl, notBlank, notBracket⟩ := h
  exact ⟨c, cs ++ rest, rfl, notBlank, notBracket⟩

theorem StartsValue.skipBlanks {text : List Char} (h : StartsValue text) :
    skipBlanks text = text := by
  obtain ⟨c, cs, rfl, notBlank, -⟩ := h
  exact skipBlanks_cons notBlank cs

/-- A numeral starts with a minus sign or a digit. -/
theorem exists_numeral_eq_cons {n : Numeral} (h : n.IsWritten) :
    ∃ c cs, n.chars = c :: cs ∧ (c = '-' ∨ c.isDigit) := by
  obtain ⟨d, ds, same, digit⟩ := exists_whole_eq_cons h
  rw [chars_numeral]
  cases n.negative with
  | true => exact ⟨'-', _, rfl, .inl rfl⟩
  | false =>
    rw [same]
    exact ⟨d, _, rfl, .inr digit⟩

theorem ne_of_numeral {c d : Char} (h : c = '-' ∨ c.isDigit) (other : d ≠ '-' ∧ ¬ d.isDigit) :
    c ≠ d := by
  rintro rfl
  rcases h with minus | digit
  · exact other.1 minus
  · exact other.2 digit

theorem not_isBlank_of_numeral {c : Char} (h : c = '-' ∨ c.isDigit) : isBlank c = false := by
  unfold isBlank
  simp only [Bool.or_eq_false_iff, decide_eq_false_iff_not]
  exact ⟨⟨⟨ne_of_numeral h (by decide), ne_of_numeral h (by decide)⟩,
    ne_of_numeral h (by decide)⟩, ne_of_numeral h (by decide)⟩

theorem IsPlain.startsValue {j : Json} (h : j.IsPlain) : StartsValue j.chars := by
  cases h with
  | null => exact ⟨_, _, rfl, rfl, by decide⟩
  | bool b =>
    cases b
    · exact ⟨_, _, rfl, rfl, by decide⟩
    · exact ⟨_, _, rfl, rfl, by decide⟩
  | number written =>
    obtain ⟨c, cs, same, head⟩ := exists_numeral_eq_cons written
    exact ⟨c, cs, same, not_isBlank_of_numeral head, ne_of_numeral head (by decide)⟩
  | string s => exact ⟨_, _, rfl, rfl, by decide⟩
  | array items => exact ⟨_, _, rfl, rfl, by decide⟩
  | object members => exact ⟨_, _, rfl, rfl, by decide⟩

theorem readValue_of_numeral {c : Char} (h : c = '-' ∨ c.isDigit) (fuel : Nat) (text : List Char) :
    readValue (fuel + 1) (c :: text) =
      (readNumeral (c :: text)).map fun r => (.number r.1, r.2) := by
  rw [readValue, skipBlanks_cons (not_isBlank_of_numeral h)]
  split
  case h_1 same => exact absurd (List.cons.inj same).1 (ne_of_numeral h (by decide))
  case h_2 same => exact absurd (List.cons.inj same).1 (ne_of_numeral h (by decide))
  case h_3 same => exact absurd (List.cons.inj same).1 (ne_of_numeral h (by decide))
  case h_4 same => exact absurd (List.cons.inj same).1 (ne_of_numeral h (by decide))
  case h_5 same => exact absurd (List.cons.inj same).1 (ne_of_numeral h (by decide))
  case h_6 same => exact absurd (List.cons.inj same).1 (ne_of_numeral h (by decide))
  case h_7 => cases readNumeral (c :: text) <;> rfl

/-! ## Items and members -/

theorem itemChars_cons (item : Json) {more : List Json} (h : more ≠ []) :
    itemChars (item :: more) = item.chars ++ ',' :: itemChars more := by
  cases more with
  | nil => contradiction
  | cons _ _ => rfl

theorem memberChars_cons (member : String × Json) {more : List (String × Json)} (h : more ≠ []) :
    memberChars (member :: more) = pairChars member ++ ',' :: memberChars more := by
  cases more with
  | nil => contradiction
  | cons _ _ => rfl

section

variable {fuel : Nat} {text others rest : List Char}

theorem readItems_of_last {item : Json} (h : readValue fuel text = some (item, ']' :: rest)) :
    readItems (fuel + 1) text = some ([item], rest) := by
  rw [readItems, h]
  rfl

theorem readItems_of_more {item : Json} {items : List Json}
    (h : readValue fuel text = some (item, ',' :: others))
    (more : readItems fuel others = some (items, rest)) :
    readItems (fuel + 1) text = some (item :: items, rest) := by
  rw [readItems, h]
  show (readItems fuel others).bind (fun r => some (item :: r.1, r.2)) = _
  rw [more, Option.bind_some]

/-- A member, and what stands behind its value. -/
theorem pairChars_append (member : String × Json) (rest : List Char) :
    pairChars member ++ rest = stringChars member.1 ++ ':' :: (member.2.chars ++ rest) := by
  obtain ⟨key, value⟩ := member
  show stringChars key ++ ':' :: value.chars ++ rest = _
  rw [List.append_assoc, List.cons_append]

theorem readMembers_of_key {key : String} :
    readMembers (fuel + 1) (stringChars key ++ ':' :: text) = (do
      let (value, rest) ← readValue fuel text
      match skipBlanks rest with
      | '\x7d' :: rest => pure ([(some key, value)], rest)
      | ',' :: rest =>
        let (members, rest) ← readMembers fuel rest
        pure ((some key, value) :: members, rest)
      | _ => none) := by
  have quoted : stringChars key ++ ':' :: text =
      '"' :: (key.toList.flatMap escapeChar ++ '"' :: ':' :: text) := by
    unfold stringChars
    simp
  rw [readMembers, quoted, skipBlanks_cons rfl]
  simp only []
  rw [readString_stringChars]
  rfl

theorem readMembers_of_last {key : String} {value : Json}
    (h : readValue fuel text = some (value, '\x7d' :: rest)) :
    readMembers (fuel + 1) (stringChars key ++ ':' :: text) = some ([(some key, value)], rest) := by
  rw [readMembers_of_key, h]
  rfl

theorem readMembers_of_more {key : String} {value : Json} {members : List (Option String × Json)}
    (h : readValue fuel text = some (value, ',' :: others))
    (more : readMembers fuel others = some (members, rest)) :
    readMembers (fuel + 1) (stringChars key ++ ':' :: text) =
      some ((some key, value) :: members, rest) := by
  rw [readMembers_of_key, h]
  show (readMembers fuel others).bind (fun r => some ((some key, value) :: r.1, r.2)) = _
  rw [more, Option.bind_some]

end

/-- Items that are read back are read up to the bracket behind them. -/
theorem readItems_itemChars {items : List Json} (nonempty : items ≠ [])
    (h : ∀ item ∈ items, item.IsReadBack) {fuel : Nat}
    (enough : 2 * (itemChars items).length + 1 ≤ fuel) (rest : List Char) :
    readItems fuel (itemChars items ++ ']' :: rest) = some (items, rest) := by
  induction items generalizing fuel with
  | nil => exact absurd rfl nonempty
  | cons item more ih =>
    obtain ⟨fuel, rfl⟩ : ∃ k, fuel = k + 1 := ⟨fuel - 1, by omega⟩
    obtain ⟨first, others⟩ := List.forall_mem_cons.1 h
    by_cases final : more = []
    · subst final
      rw [itemChars] at enough ⊢
      exact readItems_of_last (first fuel _ (by omega) (endsValue_cons rest (by decide)))
    · rw [itemChars_cons item final, List.length_append, List.length_cons] at enough
      rw [itemChars_cons item final, List.append_assoc, List.cons_append]
      exact readItems_of_more (first fuel _ (by omega) (endsValue_cons _ (by decide)))
        (ih final others (by omega))

theorem length_chars_lt_pairChars (member : String × Json) :
    member.2.chars.length < (pairChars member).length := by
  have parts := pairChars_append member []
  rw [List.append_nil, List.append_nil] at parts
  rw [parts, List.length_append, List.length_cons]
  omega

/-- Members whose values are read back are read up to the brace behind them. -/
theorem readMembers_memberChars {members : List (String × Json)} (nonempty : members ≠ [])
    (h : ∀ member ∈ members, member.2.IsReadBack) {fuel : Nat}
    (enough : 2 * (memberChars members).length + 1 ≤ fuel) (rest : List Char) :
    readMembers fuel (memberChars members ++ '\x7d' :: rest) =
      some (members.map fun member => (some member.1, member.2), rest) := by
  induction members generalizing fuel with
  | nil => exact absurd rfl nonempty
  | cons member more ih =>
    obtain ⟨fuel, rfl⟩ : ∃ k, fuel = k + 1 := ⟨fuel - 1, by omega⟩
    obtain ⟨first, others⟩ := List.forall_mem_cons.1 h
    have shorter := length_chars_lt_pairChars member
    by_cases final : more = []
    · subst final
      rw [memberChars] at enough ⊢
      rw [pairChars_append]
      exact readMembers_of_last (first fuel _ (by omega) (endsValue_cons rest (by decide)))
    · rw [memberChars_cons member final, List.length_append, List.length_cons] at enough
      rw [memberChars_cons member final, List.append_assoc, List.cons_append, pairChars_append]
      exact readMembers_of_more (first fuel _ (by omega) (endsValue_cons _ (by decide)))
        (ih final others (by omega))

/-! ## Values -/

/-- Members start with the quote of a key. -/
theorem exists_memberChars_eq_cons {members : List (String × Json)} (nonempty : members ≠ []) :
    ∃ cs, memberChars members = '"' :: cs := by
  obtain ⟨⟨key, value⟩, more, rfl⟩ := List.exists_cons_of_ne_nil nonempty
  cases more with
  | nil => exact ⟨_, rfl⟩
  | cons _ _ => exact ⟨_, rfl⟩

theorem ofMembers_named (members : List (String × Json)) :
    ofMembers (members.map fun member => (some member.1, member.2)) = .object members := by
  have named : (members.map fun member => (some member.1, member.2)).mapM
      (fun m : Option String × Json => m.1.map fun key => (key, m.2)) = some members := by
    induction members with
    | nil => rfl
    | cons member more ih => rw [List.map_cons, List.mapM_cons, ih]; rfl
  unfold ofMembers
  rw [named]

theorem startsValue_itemChars {items : List Json} (nonempty : items ≠ [])
    (h : ∀ item ∈ items, item.IsPlain) : StartsValue (itemChars items) := by
  obtain ⟨item, more, rfl⟩ := List.exists_cons_of_ne_nil nonempty
  have first := (h item (by simp)).startsValue
  by_cases final : more = []
  · subst final
    exact first
  · rw [itemChars_cons item final]
    exact first.append _

theorem isReadBack_array {items : List Json} (plain : ∀ item ∈ items, item.IsPlain)
    (h : ∀ item ∈ items, item.IsReadBack) : (Json.array items).IsReadBack := by
  intro fuel rest enough ends
  have text : (Json.array items).chars ++ rest = '[' :: (itemChars items ++ ']' :: rest) := by
    show ('[' :: itemChars items ++ [']']) ++ rest = _
    simp
  have length : (Json.array items).chars.length = (itemChars items).length + 2 := by
    show ('[' :: itemChars items ++ [']']).length = _
    simp
  obtain ⟨fuel, rfl⟩ : ∃ k, fuel = k + 1 := ⟨fuel - 1, by omega⟩
  rw [text]
  by_cases empty : items = []
  · subst empty
    rfl
  · have starts := (startsValue_itemChars empty plain).append (']' :: rest)
    have read : readItems fuel (itemChars items ++ ']' :: rest) = some (items, rest) :=
      readItems_itemChars empty h (by omega) rest
    rw [readValue, skipBlanks_cons rfl]
    simp only []
    rw [starts.skipBlanks]
    obtain ⟨c, cs, same, -, notBracket⟩ := starts
    rw [same] at read ⊢
    split
    case h_1 closed => exact absurd (List.cons.inj closed).1 notBracket
    case h_2 =>
      rw [read]
      rfl

theorem isReadBack_object {members : List (String × Json)}
    (h : ∀ member ∈ members, member.2.IsReadBack) : (Json.object members).IsReadBack := by
  intro fuel rest enough ends
  have text : (Json.object members).chars ++ rest =
      '\x7b' :: (memberChars members ++ '\x7d' :: rest) := by
    show ('\x7b' :: memberChars members ++ ['\x7d']) ++ rest = _
    simp
  have length : (Json.object members).chars.length = (memberChars members).length + 2 := by
    show ('\x7b' :: memberChars members ++ ['\x7d']).length = _
    simp
  obtain ⟨fuel, rfl⟩ : ∃ k, fuel = k + 1 := ⟨fuel - 1, by omega⟩
  rw [text]
  by_cases empty : members = []
  · subst empty
    rfl
  · have read : readMembers fuel (memberChars members ++ '\x7d' :: rest) = some (_, rest) :=
      readMembers_memberChars empty h (by omega) rest
    obtain ⟨cs, same⟩ := exists_memberChars_eq_cons empty
    rw [readValue, skipBlanks_cons rfl]
    simp only []
    rw [same, List.cons_append] at read ⊢
    rw [skipBlanks_cons rfl]
    show (readMembers fuel ('"' :: (cs ++ '\x7d' :: rest))).bind
      (fun r => some (ofMembers r.1, r.2)) = _
    rw [read, Option.bind_some, ofMembers_named]

/-- A value that holds no other one is read back if one unit of fuel is enough for it. -/
theorem isReadBack_of_leaf {j : Json} (starts : StartsValue j.chars)
    (h : ∀ fuel rest, EndsValue rest → readValue (fuel + 1) (j.chars ++ rest) = some (j, rest)) :
    j.IsReadBack := by
  intro fuel rest enough ends
  obtain ⟨c, cs, same, -, -⟩ := starts
  have pos : 0 < j.chars.length := by
    rw [same]
    exact Nat.succ_pos _
  obtain ⟨fuel, rfl⟩ : ∃ k, fuel = k + 1 := ⟨fuel - 1, by omega⟩
  exact h fuel rest ends

/-- Every plain value is read back. -/
theorem IsPlain.isReadBack {j : Json} (h : j.IsPlain) : j.IsReadBack := by
  induction h with
  | null => exact isReadBack_of_leaf IsPlain.null.startsValue fun _ _ _ => rfl
  | bool b =>
    refine isReadBack_of_leaf (IsPlain.bool b).startsValue fun _ _ _ => ?_
    cases b
    · rfl
    · rfl
  | number written =>
    refine isReadBack_of_leaf (IsPlain.number written).startsValue fun fuel rest ends => ?_
    obtain ⟨c, cs, same, head⟩ := exists_numeral_eq_cons written
    have read := readNumeral_chars written ends
    rw [same] at read
    show readValue (fuel + 1) (Numeral.chars _ ++ rest) = _
    rw [same, List.cons_append, readValue_of_numeral head, ← List.cons_append, read]
    rfl
  | string s =>
    refine isReadBack_of_leaf (IsPlain.string s).startsValue fun fuel rest ends => ?_
    have text : (Json.string s).chars ++ rest =
        '"' :: (s.toList.flatMap escapeChar ++ '"' :: rest) := by
      show ('"' :: s.toList.flatMap escapeChar ++ ['"']) ++ rest = _
      simp
    rw [text, readValue, skipBlanks_cons rfl]
    simp only []
    rw [readString_stringChars]
    rfl
  | array plain ih => exact isReadBack_array plain ih
  | object plain ih => exact isReadBack_object ih

/-- A plain value is what its text says. -/
theorem parse_render {j : Json} (h : j.IsPlain) : parse j.render = some j := by
  have read : readValue (2 * j.chars.length + 2) (j.chars ++ []) = some (j, []) :=
    h.isReadBack _ [] (by omega) endsValue_nil
  rw [List.append_nil] at read
  have length : j.render.length = j.chars.length := String.length_ofList
  unfold parse
  rw [length, render, String.toList_ofList, read]
  rfl

end KanaVoice.Json
