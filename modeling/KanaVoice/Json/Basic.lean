set_option autoImplicit false

/-!
# JSON values

Queries, speaker lists, library lists and symbol lists are exchanged as JSON.  A value keeps a
number as it is written, because the type that is read decides what the number means, and keeps
the members of an object in their order, repetitions included.

A string may escape half of a surrogate pair.  Such a string is well-formed but names no text:
it becomes `undecodable`, and so does an object with such a key.  Nothing can be read from it,
and it does no harm where nobody looks.
-/

namespace KanaVoice

/-- A number as it is written: digits before the point, digits after it (none when there is no
point), and the exponent's sign and digits. -/
structure Numeral where
  negative : Bool
  whole : List Char
  fraction : List Char := []
  exponent : Option (Bool × List Char) := none
  deriving DecidableEq, Repr

/-- A JSON value. -/
inductive Json where
  | null
  | bool (b : Bool)
  | number (n : Numeral)
  | string (s : String)
  | undecodable
  | array (items : List Json)
  | object (members : List (String × Json))
  deriving Repr, Inhabited

/-- The decimal digits of a natural number. -/
def Numeral.digitsOf (n : Nat) : List Char := Nat.toDigits 10 n

/-- A natural number, written. -/
def Numeral.ofNat (n : Nat) : Numeral := ⟨false, digitsOf n, [], none⟩

/-- An integer, written. -/
def Numeral.ofInt (n : Int) : Numeral := ⟨n < 0, digitsOf n.natAbs, [], none⟩

/-! ## Writing

The compact form: no blanks, members in their order, and in a string only the quote, the
backslash and the controls below the space escaped, the commonest of them by a letter. -/

/-- A number as it is written, its exponent always with a sign. -/
def Numeral.chars (n : Numeral) : List Char :=
  (if n.negative then ['-'] else []) ++ n.whole ++
  (if n.fraction.isEmpty then [] else '.' :: n.fraction) ++
  match n.exponent with
  | none => []
  | some (negative, digits) => 'e' :: (if negative then '-' else '+') :: digits

namespace Json

/-- One character inside a string. -/
def escapeChar (c : Char) : List Char :=
  if c = '"' then ['\\', '"']
  else if c = '\\' then ['\\', '\\']
  else if c = '\x08' then ['\\', 'b']
  else if c = '\t' then ['\\', 't']
  else if c = '\n' then ['\\', 'n']
  else if c = '\x0c' then ['\\', 'f']
  else if c = '\r' then ['\\', 'r']
  else if c.toNat < 0x20 then
    ['\\', 'u', '0', '0', Nat.digitChar (c.toNat / 16), Nat.digitChar (c.toNat % 16)]
  else [c]

/-- A text between quotes. -/
def stringChars (s : String) : List Char :=
  '"' :: s.toList.flatMap escapeChar ++ ['"']

mutual

/-- A value in compact form.  A string that names no text is written as one such string. -/
def chars : Json → List Char
  | .null => ['n', 'u', 'l', 'l']
  | .bool true => ['t', 'r', 'u', 'e']
  | .bool false => ['f', 'a', 'l', 's', 'e']
  | .number n => n.chars
  | .string s => stringChars s
  | .undecodable => ['"', '\\', 'u', 'd', '8', '0', '0', '"']
  | .array items => '[' :: itemChars items ++ [']']
  | .object members => '\x7b' :: memberChars members ++ ['\x7d']
termination_by structural j => j

/-- Items with commas between them. -/
def itemChars : List Json → List Char
  | [] => []
  | [item] => chars item
  | item :: items => chars item ++ ',' :: itemChars items
termination_by structural items => items

/-- Members with commas between them. -/
def memberChars : List (String × Json) → List Char
  | [] => []
  | [member] => pairChars member
  | member :: members => pairChars member ++ ',' :: memberChars members
termination_by structural members => members

/-- A key, a colon and a value. -/
def pairChars : String × Json → List Char
  | (key, value) => stringChars key ++ ':' :: chars value
termination_by structural member => member

end

/-- The compact text of a value. -/
def render (j : Json) : String := String.ofList j.chars

end Json

end KanaVoice
