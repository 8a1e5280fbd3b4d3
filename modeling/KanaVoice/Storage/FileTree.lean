set_option autoImplicit false

/-!
# File trees

The files that a library of voices is read from, as a value: at each location, a file with its
bytes, a folder, or nothing.  Every path is followed from the top of the tree, component by
component, and each component but the last must be a folder.
-/

namespace KanaVoice

/-! ## Paths

A path is kept as it is written, since messages show it that way.  Its components are what lies
between the slashes. -/

/-- A path as it is written. -/
structure Path where
  text : String
  deriving DecidableEq, Repr

namespace Path

/-- The path with another one behind it; an absolute one replaces it. -/
def join (p : Path) (name : String) : Path :=
  if name.toList.head? = some '/' then ⟨name⟩
  else if p.text.toList.getLast?.all (· = '/') then ⟨p.text ++ name⟩
  else ⟨p.text ++ "/" ++ name⟩

/-- What lies between the slashes. -/
def components (p : Path) : List String :=
  ((p.text.toList.splitOn '/').map String.ofList).filter (· ≠ "")

/-- The path ends in a slash. -/
def endsInSlash (p : Path) : Bool := p.text.toList.getLast? = some '/'

end Path

/-! ## Trees -/

/-- Why a file cannot be read or written. -/
inductive IoFault where
  | notFound
  | notFolder
  | isFolder
  | nameTooLong
  | nulInName
  | notUtf8
  | reported (text : String)
  deriving DecidableEq, Repr

/-- The operating system's wording. -/
def IoFault.message : IoFault → String
  | .notFound => "No such file or directory (os error 2)"
  | .notFolder => "Not a directory (os error 20)"
  | .isFolder => "Is a directory (os error 21)"
  | .nameTooLong => "File name too long (os error 36)"
  | .nulInName => "file name contained an unexpected NUL byte"
  | .notUtf8 => "stream did not contain valid UTF-8"
  | .reported text => text

/-- What stands at a location. -/
inductive Entry where
  | folder
  | file (bytes : ByteArray)

/-- A location: the names of the folders on the way to it and its own name. -/
abbrev Location := List String

/-- What stands at every location.  The top is a folder. -/
structure FileTree where
  entry : Location → Option Entry

namespace FileTree

/-- A tree with nothing in it. -/
def empty : FileTree := ⟨fun _ => none⟩

/-- What stands at a location, the top included. -/
def at? (t : FileTree) (location : Location) : Option Entry :=
  if location = [] then some .folder else t.entry location

/-- The tree with an entry put at a location. -/
def put (t : FileTree) (location : Location) (e : Entry) : FileTree :=
  ⟨fun l => if l = location then some e else t.entry l⟩

/-- The tree without a location and everything below it. -/
def remove (t : FileTree) (location : Location) : FileTree :=
  ⟨fun l => if location.isPrefixOf l then none else t.entry l⟩

/-- The longest name, in bytes, that a file or folder may have. -/
def maxNameLength : Nat := 255

/-- The location that the components lead to from a folder. -/
def follow (t : FileTree) (here : Location) : List String → Except IoFault Location
  | [] => .ok here
  | name :: rest =>
    match t.at? here with
    | none => .error .notFound
    | some (.file _) => .error .notFolder
    | some .folder =>
      if name = "." then follow t here rest
      else if name = ".." then follow t here.dropLast rest
      else if maxNameLength < name.utf8ByteSize then .error .nameTooLong
      else follow t (here ++ [name]) rest

/-- The longest path, in bytes, that is followed at all. -/
def maxPathLength : Nat := 4095

/-- The location that some components of a path lead to from the top.  A path that cannot be given
to the system is refused before anything is looked up. -/
def walk (t : FileTree) (p : Path) (components : List String) : Except IoFault Location :=
  if p.text.toList.contains '\x00' then .error .nulInName
  else if p.text = "" then .error .notFound
  else if maxPathLength < p.text.utf8ByteSize then .error .nameTooLong
  else t.follow [] components

/-- The location of a path. -/
def locate (t : FileTree) (p : Path) : Except IoFault Location := t.walk p p.components

/-- What stands at the end of a path.  Before a final slash stands a folder. -/
def lookup (t : FileTree) (p : Path) : Except IoFault Entry := do
  match t.at? (← t.locate p) with
  | none => .error .notFound
  | some .folder => .ok .folder
  | some (.file bytes) => if p.endsInSlash then .error .notFolder else .ok (.file bytes)

/-- Something stands at the end of a path. -/
def pathExists (t : FileTree) (p : Path) : Bool :=
  match t.lookup p with
  | .ok _ => true
  | .error _ => false

/-- The bytes of a file. -/
def read (t : FileTree) (p : Path) : Except IoFault ByteArray := do
  match ← t.lookup p with
  | .folder => .error .isFolder
  | .file bytes => .ok bytes

/-- The text of a file. -/
def readText (t : FileTree) (p : Path) : Except IoFault String := do
  match String.fromUTF8? (← t.read p) with
  | some text => .ok text
  | none => .error .notUtf8

/-- The tree after a file has been written, in the place of an older one if there is one.  Its
folder must be there already.  A path with a final slash can only name a folder, so it is refused
once the way to its last component is clear, whatever that component is. -/
def write (t : FileTree) (p : Path) (bytes : ByteArray) : Except IoFault FileTree := do
  if p.endsInSlash then
    let _ ← t.walk p (p.components.dropLast ++ ["."])
    .error .isFolder
  else
    let location ← t.locate p
    match t.at? location with
    | some .folder => .error .isFolder
    | _ => .ok (t.put location (.file bytes))

end FileTree

end KanaVoice
