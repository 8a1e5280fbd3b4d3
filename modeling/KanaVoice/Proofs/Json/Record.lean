import KanaVoice.Json.Record
import KanaVoice.Proofs.Json.RoundTrip
set_option autoImplicit false

/-!
# Typed values, written and read

What is written of a value of a type is a plain value, and its decoder takes it back to the value.
Only a number that is not finite is written as null, which is nothing where nothing is admitted and
cannot be read elsewhere.  An object that has the fields of a record in their order is read as this
record.
-/

namespace KanaVoice.Json

/-! ## Numbers -/

theorem nat?_ofNat {n bound : Nat} (h : n < bound) (fits : bound ≤ UInt64.size) :
    nat? bound (.ofNat n) = some n := by
  unfold nat? int? ofNat
  simp only [Numeral.int?_ofNat (h.trans_le fits), Option.bind_eq_bind, Option.bind_some]
  rw [if_pos (by omega)]
  rfl

theorem uint32?_ofNat (n : UInt32) : uint32? (.ofNat n.toNat) = some n := by
  have small : n.toNat < UInt32.size := n.toNat_lt
  rw [uint32?, nat?_ofNat small (by decide), Option.map_some, UInt32.ofNat_toNat]

theorem int64?_ofInt (n : Int64) : int64? (.number (.ofInt n.toInt)) = some n := by
  have low : Int64.minValue.toInt ≤ n.toInt := n.minValue_le_toInt
  have high : n.toInt ≤ Int64.maxValue.toInt := n.toInt_le
  have value : (Numeral.ofInt n.toInt).int? = some n.toInt :=
    Numeral.int?_ofInt (low.trans' (by decide)) (high.trans_lt (by decide))
  unfold int64? int?
  simp only [value, Option.bind_eq_bind, Option.bind_some]
  rw [if_pos ⟨low, high⟩, Option.map_some, Int64.ofInt_toInt]

/-- A finite number is written as a number that means it, any other number as null. -/
theorem ofSingle_cases {x : Float32} (reads : Single.ReadsBack x) :
    x.isFinite = false ∧ ofSingle x = .null ∨
      x.isFinite = true ∧ ∃ n, ofSingle x = .number n ∧ n.IsWritten ∧ n.single? = some x := by
  unfold ofSingle
  cases written : Numeral.ofSingle? x with
  | none => exact .inl ⟨Numeral.ofSingle?_eq_none_iff.1 written, rfl⟩
  | some n =>
    have finite : x.isFinite ≠ false := by
      rw [Ne, ← Numeral.ofSingle?_eq_none_iff, written]
      nofun
    have ⟨isWritten, value⟩ := Numeral.of_ofSingle? reads written
    exact .inr ⟨by simpa using finite, n, rfl, isWritten, value⟩

theorem single?_ofSingle {x : Float32} (reads : Single.ReadsBack x) :
    single? (ofSingle x) = if x.isFinite then some x else none := by
  rcases ofSingle_cases reads with ⟨finite, same⟩ | ⟨finite, n, same, -, value⟩
  · rw [same, finite]
    rfl
  · rw [same, finite, if_pos rfl]
    exact value

/-- A number that may be absent is read as absent when it is not finite. -/
theorem nullable?_ofOption_ofSingle {x : Option Float32} (reads : ∀ a ∈ x, Single.ReadsBack a) :
    nullable? single? (ofOption ofSingle x) = some (x.filter Float32.isFinite) := by
  cases x with
  | none => rfl
  | some a =>
    show nullable? single? (ofSingle a) = _
    rw [Option.filter_some]
    rcases ofSingle_cases (reads a rfl) with ⟨finite, same⟩ | ⟨finite, n, same, -, value⟩
    · rw [same, finite]
      rfl
    · rw [same, finite, if_pos rfl]
      show n.single?.map some = _
      rw [value, Option.map_some]

theorem isPlain_ofNat (n : Nat) : (ofNat n).IsPlain := .number (Numeral.isWritten_ofNat n)

theorem isPlain_ofSingle {x : Float32} (reads : Single.ReadsBack x) : (ofSingle x).IsPlain := by
  rcases ofSingle_cases reads with ⟨-, same⟩ | ⟨-, n, same, isWritten, -⟩
  · exact same ▸ .null
  · exact same ▸ .number isWritten

/-! ## Options, lists and records -/

variable {α β : Type}

theorem isPlain_ofOption {encode : α → Json} {a : Option α} (h : ∀ x ∈ a, (encode x).IsPlain) :
    (ofOption encode a).IsPlain := by
  cases a with
  | none => exact .null
  | some x => exact h x rfl

theorem isPlain_array {encode : α → Json} {items : List α}
    (h : ∀ a ∈ items, (encode a).IsPlain) : (array (items.map encode)).IsPlain :=
  .array (List.forall_mem_map.2 h)

/-- An object with all the fields is read as these. -/
theorem fields?_object {names : List String} {members : List (String × Json)}
    (same : members.map Prod.fst = names) (distinct : names.Nodup) :
    fields? names (.object members) = some ⟨false, members⟩ := by
  have known : members.filter (fun m => names.contains m.1) = members := by
    refine List.filter_eq_self.2 fun m mem => ?_
    rw [List.contains_iff_mem, ← same]
    exact List.mem_map_of_mem mem
  show (knownMembers names members).map _ = _
  unfold knownMembers
  simp only [known]
  rw [if_pos (same ▸ distinct)]
  rfl

theorem nullable?_ofOption_string (s : Option String) :
    nullable? text? (ofOption .string s) = some s := by
  cases s <;> rfl

theorem text?_eq_some_iff {j : Json} {s : String} : text? j = some s ↔ j = .string s := by
  cases j <;> simp [text?]

/-- Only an array of texts is read as these texts. -/
theorem list?_text?_eq_some_iff {j : Json} {texts : List String} :
    list? text? j = some texts ↔ j = .array (texts.map .string) := by
  unfold list?
  split
  case h_1 items =>
    rw [Json.array.injEq]
    induction items generalizing texts with
    | nil => cases texts <;> simp
    | cons item rest ih =>
      simp only [List.mapM_cons, Option.bind_eq_bind, Option.bind_eq_some_iff, text?_eq_some_iff,
        ih, Option.pure_def, Option.some.injEq]
      cases texts with
      | nil => simp
      | cons text texts => simp [and_comm]
  case h_2 other => exact iff_of_false nofun (other _)

/-- Reading goes on behind what can be read. -/
theorem ite_some_bind {c : Prop} [Decidable c] (a : α) (f : α → Option β) :
    ((if c then some a else none) >>= f) = if c then f a else none := by
  split <;> rfl

/-- A list is read item by item. -/
theorem list?_array {decode : Decoder β} {encode : α → Json} {items : List α} {good : α → Bool}
    {f : α → β} (h : ∀ a ∈ items, decode (encode a) = if good a then some (f a) else none) :
    list? decode (.array (items.map encode)) =
      if items.all good then some (items.map f) else none := by
  show (items.map encode).mapM decode = _
  induction items with
  | nil => rfl
  | cons a items ih =>
    obtain ⟨first, others⟩ := List.forall_mem_cons.1 h
    rw [List.map_cons, List.mapM_cons, first, ih others, List.all_cons, List.map_cons]
    simp only [ite_some_bind, Bool.and_eq_true, ite_and]
    rfl

/-- A list whose items are all read as they were is read as it was. -/
theorem list?_array_of_forall {decode : Decoder α} {encode : α → Json} {items : List α}
    (h : ∀ a ∈ items, decode (encode a) = some a) :
    list? decode (.array (items.map encode)) = some items := by
  have all : list? decode (.array (items.map encode)) =
      if items.all fun _ => true then some (items.map id) else none := list?_array h
  rwa [List.map_id, if_pos (List.all_eq_true.2 fun _ _ => rfl)] at all

end KanaVoice.Json
