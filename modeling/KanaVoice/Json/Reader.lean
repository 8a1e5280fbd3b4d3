import KanaVoice.Json.Basic
set_option autoImplicit false

/-!
# Reading JSON

A reader takes the front of a text and returns what stood there and what is left.  The grammar
is the strict one: no comments, no trailing commas, no leading zeros, control characters only as
escapes, and nothing but blanks after the value.  A value inside another one costs at most two
units of fuel and at least one character, so twice the text's length and a little more is always
enough.
-/

namespace KanaVoice.Json

/-- Blank space between tokens. -/
def isBlank (c : Char) : Bool :=
  c = ' ' || c = '\n' || c = '\t' || c = '\r'

/-- The text after leading blanks. -/
def skipBlanks (cs : List Char) : List Char := cs.dropWhile isBlank

/-! ## Numbers -/

/-- The digits before the point: a zero alone, or a run of digits that starts with another one. -/
def readWhole : List Char → Option (List Char × List Char)
  | '0' :: rest => some (['0'], rest)
  | cs =>
    if (cs.takeWhile Char.isDigit).isEmpty then none
    else some (cs.takeWhile Char.isDigit, cs.dropWhile Char.isDigit)

/-- A point and the digits after it, at least one; without a point, no digits. -/
def readFraction : List Char → Option (List Char × List Char)
  | '.' :: cs =>
    if (cs.takeWhile Char.isDigit).isEmpty then none
    else some (cs.takeWhile Char.isDigit, cs.dropWhile Char.isDigit)
  | cs => some ([], cs)

/-- The digits of an exponent, at least one. -/
def readExponentDigits (negative : Bool) (cs : List Char) :
    Option (Option (Bool × List Char) × List Char) :=
  if (cs.takeWhile Char.isDigit).isEmpty then none
  else some (some (negative, cs.takeWhile Char.isDigit), cs.dropWhile Char.isDigit)

/-- An exponent with an optional sign, if there is one. -/
def readExponent : List Char → Option (Option (Bool × List Char) × List Char)
  | c :: cs =>
    if c = 'e' || c = 'E' then
      match cs with
      | '-' :: rest => readExponentDigits true rest
      | '+' :: rest => readExponentDigits false rest
      | rest => readExponentDigits false rest
    else some (none, c :: cs)
  | [] => some (none, [])

/-- A number. -/
def readNumeral (cs : List Char) : Option (Numeral × List Char) := do
  let (negative, cs) := match cs with
    | '-' :: rest => (true, rest)
    | _ => (false, cs)
  let (whole, cs) ← readWhole cs
  let (fraction, cs) ← readFraction cs
  let (exponent, cs) ← readExponent cs
  pure (⟨negative, whole, fraction, exponent⟩, cs)

/-! ## Strings -/

/-- The value of a hexadecimal digit. -/
def hexValue? (c : Char) : Option Nat :=
  if '0' ≤ c && c ≤ '9' then some (c.toNat - '0'.toNat)
  else if 'a' ≤ c && c ≤ 'f' then some (c.toNat - 'a'.toNat + 10)
  else if 'A' ≤ c && c ≤ 'F' then some (c.toNat - 'A'.toNat + 10)
  else none

/-- The code unit that four hexadecimal digits name. -/
def hexUnit? (a b c d : Char) : Option Nat := do
  pure (4096 * (← hexValue? a) + 256 * (← hexValue? b) + 16 * (← hexValue? c) + (← hexValue? d))

/-- The code point that a one-letter escape stands for. -/
def escapeValue? : Char → Option Nat
  | '"' => some 0x22
  | '\\' => some 0x5c
  | '/' => some 0x2f
  | 'b' => some 0x08
  | 'f' => some 0x0c
  | 'n' => some 0x0a
  | 'r' => some 0x0d
  | 't' => some 0x09
  | _ => none

/-- The code points and escaped code units of a string, after its opening quote. -/
def readUnits : List Char → Option (List Nat × List Char)
  | '"' :: rest => some ([], rest)
  | '\\' :: 'u' :: a :: b :: c :: d :: rest => do
    let unit ← hexUnit? a b c d
    let (units, rest) ← readUnits rest
    pure (unit :: units, rest)
  | '\\' :: e :: rest => do
    let unit ← escapeValue? e
    let (units, rest) ← readUnits rest
    pure (unit :: units, rest)
  | c :: rest =>
    if c.toNat < 0x20 then none
    else do
      let (units, rest) ← readUnits rest
      pure (c.toNat :: units, rest)
  | [] => none

/-- The first half of a surrogate pair. -/
def isLeading (u : Nat) : Bool := 0xd800 ≤ u && u < 0xdc00

/-- The second half of a surrogate pair. -/
def isTrailing (u : Nat) : Bool := 0xdc00 ≤ u && u < 0xe000

/-- The characters that the units name, each surrogate pair being one; none if a half stands
alone. -/
def joinUnits : List Nat → Option (List Char)
  | [] => some []
  | u :: v :: rest =>
    if isLeading u then
      if isTrailing v then
        (joinUnits rest).map (Char.ofNat (0x10000 + 0x400 * (u - 0xd800) + (v - 0xdc00)) :: ·)
      else none
    else if isTrailing u then none
    else (joinUnits (v :: rest)).map (Char.ofNat u :: ·)
  | [u] => if isLeading u || isTrailing u then none else some [Char.ofNat u]

/-- A string after its opening quote: its text, if it names one, and what follows. -/
def readString (cs : List Char) : Option (Option String × List Char) := do
  let (units, rest) ← readUnits cs
  pure ((joinUnits units).map String.ofList, rest)

/-! ## Values -/

/-- A string value; without a text it is undecodable. -/
def ofText : Option String → Json
  | some s => .string s
  | none => .undecodable

/-- An object from the members read; one key without a text makes it undecodable. -/
def ofMembers (members : List (Option String × Json)) : Json :=
  match members.mapM fun m => m.1.map fun key => (key, m.2) with
  | some named => .object named
  | none => .undecodable

mutual

/-- One value, with blanks in front. -/
def readValue : Nat → List Char → Option (Json × List Char)
  | 0, _ => none
  | fuel + 1, cs =>
    match skipBlanks cs with
    | 'n' :: 'u' :: 'l' :: 'l' :: rest => some (.null, rest)
    | 't' :: 'r' :: 'u' :: 'e' :: rest => some (.bool true, rest)
    | 'f' :: 'a' :: 'l' :: 's' :: 'e' :: rest => some (.bool false, rest)
    | '"' :: rest => do
      let (text, rest) ← readString rest
      pure (ofText text, rest)
    | '[' :: rest =>
      match skipBlanks rest with
      | ']' :: rest => some (.array [], rest)
      | rest => do
        let (items, rest) ← readItems fuel rest
        pure (.array items, rest)
    | '{' :: rest =>
      match skipBlanks rest with
      | '}' :: rest => some (.object [], rest)
      | rest => do
        let (members, rest) ← readMembers fuel rest
        pure (ofMembers members, rest)
    | cs => do
      let (n, rest) ← readNumeral cs
      pure (.number n, rest)

/-- The items of an array up to its closing bracket, at least one. -/
def readItems : Nat → List Char → Option (List Json × List Char)
  | 0, _ => none
  | fuel + 1, cs => do
    let (item, rest) ← readValue fuel cs
    match skipBlanks rest with
    | ']' :: rest => pure ([item], rest)
    | ',' :: rest =>
      let (items, rest) ← readItems fuel rest
      pure (item :: items, rest)
    | _ => none

/-- The members of an object up to its closing brace, at least one. -/
def readMembers : Nat → List Char → Option (List (Option String × Json) × List Char)
  | 0, _ => none
  | fuel + 1, cs =>
    match skipBlanks cs with
    | '"' :: rest => do
      let (key, rest) ← readString rest
      match skipBlanks rest with
      | ':' :: rest =>
        let (value, rest) ← readValue fuel rest
        match skipBlanks rest with
        | '}' :: rest => pure ([(key, value)], rest)
        | ',' :: rest =>
          let (members, rest) ← readMembers fuel rest
          pure ((key, value) :: members, rest)
        | _ => none
      | _ => none
    | _ => none

end

/-- The value that a whole text is, blanks around it aside. -/
def parse (text : String) : Option Json :=
  match readValue (2 * text.length + 2) text.toList with
  | some (value, rest) => if (skipBlanks rest).isEmpty then some value else none
  | none => none

end KanaVoice.Json
