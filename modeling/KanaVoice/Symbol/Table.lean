import KanaVoice.Fault
import KanaVoice.Json.Reader
import KanaVoice.Speech.AccentPhrase
set_option autoImplicit false

/-!
# Symbol tables

The models know phonemes and accent marks by number: the place of a symbol in a list.  A symbol
that is listed more than once has the last of its places.  A set of voices may bring its own
lists in a file `symbols.json`; otherwise the built-in ones hold.
-/

namespace KanaVoice

/-- The phonemes and the accent symbols, each list in the order of its numbers. -/
structure SymbolTable where
  phonemes : List String
  accents : List String
  deriving DecidableEq, Repr

namespace SymbolTable

/-- The lists that hold when a set of voices brings none. -/
def builtIn : SymbolTable where
  phonemes :=
    ["pau", "A", "E", "I", "N", "O", "U", "a", "b", "by", "ch", "cl", "d", "dy", "e", "f", "g",
     "gw", "gy", "h", "hy", "i", "j", "k", "kw", "ky", "m", "my", "n", "ny", "o", "p", "py", "r",
     "ry", "s", "sh", "t", "ts", "ty", "u", "v", "w", "y", "z"]
  accents := ["_", "[", "]", "?", "#"]

/-- The last place of a symbol in a list. -/
def lastPlace? (symbol : String) : List String → Option Nat
  | [] => none
  | s :: rest =>
    match lastPlace? symbol rest with
    | some place => some (place + 1)
    | none => if s = symbol then some 0 else none

/-- The list of a kind of symbols. -/
def list (t : SymbolTable) : SymbolKind → List String
  | .phoneme => t.phonemes
  | .accent => t.accents

/-- The number of a symbol. -/
def id (t : SymbolTable) (kind : SymbolKind) (symbol : String) : Except Fault Int :=
  match lastPlace? symbol (t.list kind) with
  | some place => .ok place
  | none => .error (.unknownSymbol kind symbol)

/-- The numbers of symbols in order; the first unknown one is a fault. -/
def ids (t : SymbolTable) (kind : SymbolKind) (symbols : List String) : Except Fault (List Int) :=
  symbols.mapM (t.id kind)

/-! ## The file -/

/-- The table that a JSON value describes. -/
def ofJson? : Json.Decoder SymbolTable := fun j => do
  let fields ← Json.fields? ["phonemes", "accents"] j
  let phonemes ← fields.required "phonemes" (Json.list? Json.text?)
  let accents ← fields.required "accents" (Json.list? Json.text?)
  pure { phonemes, accents }

/-- The table in a file; neither list may be empty. -/
def load (tree : FileTree) (path : Path) : Except Fault SymbolTable := do
  let text ← (tree.readText path).mapError .io
  match Json.parse text >>= ofJson? with
  | none => .error (.manifest (.malformed path))
  | some table =>
    if table.phonemes.isEmpty || table.accents.isEmpty then
      .error (.manifest (.noSymbols path))
    else .ok table

/-- The name of the file under the root of a set of voices. -/
def fileName : String := "symbols.json"

/-- The table under a root, or the built-in one if there is no such file. -/
def loadOrBuiltIn (tree : FileTree) (root : Path) : Except Fault SymbolTable :=
  if tree.pathExists (root.join fileName) then load tree (root.join fileName) else .ok builtIn

end SymbolTable

/-! ## Encoded phrases

What the models are given of a list of phrases: the numbers of the phonemes and of the accent marks,
position by position, beside the morae they come from. -/

/-- Flattened morae with the numbers of their phonemes and accent marks. -/
structure Encoding where
  moras : List Mora
  phonemeIds : List Int
  accentIds : List Int
  deriving DecidableEq

/-- The encoding of phrases; an unknown phoneme is reported before an unknown accent symbol. -/
def encode (symbols : SymbolTable) (phrases : List AccentPhrase) : Except Fault Encoding := do
  let moras := flattenMoras phrases
  let phonemeIds ← symbols.ids .phoneme (phonemeSymbols moras)
  let accentIds ← symbols.ids .accent (accentSymbols phrases)
  .ok { moras, phonemeIds, accentIds }

end KanaVoice
