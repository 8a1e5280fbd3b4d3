import KanaVoice.Json.Number
set_option autoImplicit false

/-!
# Reading typed values

A decoder takes a JSON value to a value of a type, or to nothing.  A record with named fields
may be written as an object or as the array of its fields in order.  In an object, fields
without a meaning are passed over and a known field must not be repeated.  An array may leave
out fields at its end and must not hold more items than there are fields.
-/

namespace KanaVoice.Json

/-- Reads a value of a type. -/
abbrev Decoder (α : Type) := Json → Option α

/-- A truth value. -/
def bool? : Decoder Bool
  | .bool b => some b
  | _ => none

/-- A text. -/
def text? : Decoder String
  | .string s => some s
  | _ => none

/-- A single-precision number; integers count. -/
def single? : Decoder Float32
  | .number n => n.single?
  | _ => none

/-- An integer from `lo` to `hi`. -/
def int? (lo hi : Int) : Decoder Int
  | .number n => do
    let i ← n.int?
    if lo ≤ i ∧ i ≤ hi then some i else none
  | _ => none

/-- A natural number below `bound`. -/
def nat? (bound : Nat) : Decoder Nat :=
  fun j => (int? 0 (bound - 1) j).map Int.toNat

/-- A natural number of 32 bits. -/
def uint32? : Decoder UInt32 :=
  fun j => (nat? UInt32.size j).map UInt32.ofNat

/-- An integer of 64 bits. -/
def int64? : Decoder Int64 :=
  fun j => (int? Int64.minValue.toInt Int64.maxValue.toInt j).map Int64.ofInt

/-- A value that may be null. -/
def nullable? {α : Type} (decode : Decoder α) : Decoder (Option α)
  | .null => some none
  | j => (decode j).map some

/-- An array of values. -/
def list? {α : Type} (decode : Decoder α) : Decoder (List α)
  | .array items => items.mapM decode
  | _ => none

/-! ## Records -/

/-- The fields found in a record; `positional` when it was written as an array. -/
structure Fields where
  positional : Bool
  found : List (String × Json)

/-- The members with a known name; none if one is repeated. -/
def knownMembers (names : List String) (members : List (String × Json)) :
    Option (List (String × Json)) :=
  let known := members.filter fun m => names.contains m.1
  if (known.map Prod.fst).Nodup then some known else none

/-- The fields of a record with the given names. -/
def fields? (names : List String) : Decoder Fields
  | .object members => (knownMembers names members).map (⟨false, ·⟩)
  | .array items =>
    if items.length ≤ names.length then some ⟨true, names.zip items⟩ else none
  | _ => none

namespace Fields

/-- The value of a field, if it is there. -/
def get? (fields : Fields) (name : String) : Option Json := fields.found.lookup name

/-- A field that must be there. -/
def required {α : Type} (fields : Fields) (name : String) (decode : Decoder α) : Option α := do
  decode (← fields.get? name)

/-- A field that may be null, and absent from an object. -/
def optional {α : Type} (fields : Fields) (name : String) (decode : Decoder α) :
    Option (Option α) :=
  match fields.get? name with
  | some j => nullable? decode j
  | none => if fields.positional then none else some none

/-- A field that has a value when it is absent. -/
def defaulted {α : Type} (fields : Fields) (name : String) (value : α) (decode : Decoder α) :
    Option α :=
  match fields.get? name with
  | some j => decode j
  | none => some value

end Fields

/-! ## Writing -/

/-- A natural number as a value. -/
def ofNat (n : Nat) : Json := .number (.ofNat n)

/-- A single-precision number as a value; infinities and NaN have none and become null. -/
def ofSingle (x : Float32) : Json :=
  match Numeral.ofSingle? x with
  | some n => .number n
  | none => .null

/-- A value or null. -/
def ofOption {α : Type} (encode : α → Json) : Option α → Json
  | some a => encode a
  | none => .null

end KanaVoice.Json
