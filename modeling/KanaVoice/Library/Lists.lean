import KanaVoice.Fault
import KanaVoice.Json.Reader
set_option autoImplicit false

/-!
# Lists of libraries and of speakers

What is there to be spoken with is listed in JSON files: the libraries under a root in one, and the
speakers of each library in one more.
-/

namespace KanaVoice

/-! ## Libraries

The file `libraries.json` under a root names the voice libraries there and says which of them may be
used.  They are kept in ascending order of their names, each name once; of a repeated name the last
mention counts. -/

/-- The value in a JSON file. -/
def readJson {α : Type} (tree : FileTree) (path : Path) (decode : Json.Decoder α) :
    Except Fault α := do
  let text ← (tree.readText path).mapError fun cause => .manifest (.unreadable path cause)
  match Json.parse text >>= decode with
  | some a => .ok a
  | none => .error (.manifest (.malformed path))

/-- Names of libraries with their usability, in ascending order of the names. -/
abbrev Manifest := List (String × Bool)

namespace Manifest

/-- The manifest with one more mention. -/
def insert (name : String) (usable : Bool) : Manifest → Manifest
  | [] => [(name, usable)]
  | (other, flag) :: rest =>
    if name = other then (name, usable) :: rest
    else if name < other then (name, usable) :: (other, flag) :: rest
    else (other, flag) :: insert name usable rest

/-- The manifest of mentions in order. -/
def ofMentions (mentions : List (String × Bool)) : Manifest :=
  mentions.foldl (fun m mention => insert mention.1 mention.2 m) []

/-- The manifest that a JSON object describes. -/
def ofJson? : Json.Decoder Manifest
  | .object members =>
    (members.mapM fun m => (Json.bool? m.2).map fun usable => (m.1, usable)).map ofMentions
  | _ => none

/-- The name of the file under a root. -/
def fileName : String := "libraries.json"

/-- The manifest under a root. -/
def load (tree : FileTree) (root : Path) : Except Fault Manifest :=
  readJson tree (root.join fileName) ofJson?

/-- The names of the usable libraries in ascending order. -/
def usable (m : Manifest) : List String := (m.filter Prod.snd).map Prod.fst

end Manifest

/-! ## Speakers

A library serves some speakers, each in one or more styles.  A request names a style by its
number, so the number of a style is what is meant by a speaker in a request.  The file
`metas.json` of a library lists them. -/

/-- A style of a speaker. -/
structure Style where
  name : String
  id : Int64
  deriving DecidableEq, Repr

/-- A speaker with its styles. -/
structure Speaker where
  name : String
  styles : List Style
  uuid : String
  version : String
  deriving DecidableEq, Repr

namespace Style

/-- The style that a JSON value describes. -/
def ofJson? : Json.Decoder Style := fun j => do
  let fields ← Json.fields? ["name", "id"] j
  let name ← fields.required "name" Json.text?
  let id ← fields.required "id" Json.int64?
  pure { name, id }

/-- The style as a JSON value. -/
def toJson (s : Style) : Json :=
  .object [("name", .string s.name), ("id", .number (.ofInt s.id.toInt))]

end Style

namespace Speaker

/-- The speaker that a JSON value describes. -/
def ofJson? : Json.Decoder Speaker := fun j => do
  let fields ← Json.fields? ["name", "styles", "speaker_uuid", "version"] j
  let name ← fields.required "name" Json.text?
  let styles ← fields.required "styles" (Json.list? Style.ofJson?)
  let uuid ← fields.required "speaker_uuid" Json.text?
  let version ← fields.required "version" Json.text?
  pure { name, styles, uuid, version }

/-- The speaker as a JSON value. -/
def toJson (s : Speaker) : Json :=
  .object [("name", .string s.name), ("styles", .array (s.styles.map Style.toJson)),
    ("speaker_uuid", .string s.uuid), ("version", .string s.version)]

/-- The name of the file in a library's folder. -/
def fileName : String := "metas.json"

/-- The speakers of the library in a folder. -/
def loadAll (tree : FileTree) (folder : Path) : Except Fault (List Speaker) :=
  readJson tree (folder.join fileName) (Json.list? ofJson?)

/-- Speakers as the text of one JSON array. -/
def listJson (speakers : List Speaker) : String :=
  (Json.array (speakers.map toJson)).render

end Speaker

/-- The numbers of all styles of the speakers, in order. -/
def styleIds (speakers : List Speaker) : List Int64 :=
  speakers.flatMap fun s => s.styles.map Style.id

end KanaVoice
