import KanaVoice.Library.Catalogue
import KanaVoice.Proofs.Except
import KanaVoice.Symbol.Table
set_option autoImplicit false

/-!
# What the files of libraries say

The lists and tables that voices are made of come from JSON files, and models from files of any
bytes.  What comes of each file, be it a value or a fault, is told here by the bytes that the tree
has at its path, and it is the same for two trees that have the same there.
-/

namespace KanaVoice

/-! ## Paths with nothing at them -/

namespace FileTree

theorem failsOnly_follow (t : FileTree) (components : List String) (here : Location) :
    FailsOnly (· ≠ .isFolder) (t.follow here components) := by
  induction components generalizing here with
  | nil => exact .ok here
  | cons name rest ih =>
    unfold follow
    split
    case h_1 => exact .error nofun
    case h_2 => exact .error nofun
    case h_3 =>
      split
      · exact ih here
      · split
        · exact ih here.dropLast
        · split
          · exact .error nofun
          · exact ih (here ++ [name])

theorem failsOnly_lookup (t : FileTree) (p : Path) :
    FailsOnly (· ≠ .isFolder) (t.lookup p) := by
  refine .bind ?_ fun location _ => ?_
  · unfold locate walk
    split
    · exact .error nofun
    · split
      · exact .error nofun
      · split
        · exact .error nofun
        · exact t.failsOnly_follow _ _
  · split
    · exact .error nofun
    · exact .ok _
    · split
      · exact .error nofun
      · exact .ok _

/-- Reading tells whether there is anything: a folder can be told from nothing. -/
theorem pathExists_eq_false_iff {t : FileTree} {p : Path} :
    t.pathExists p = false ↔ ∃ cause, t.read p = .error cause ∧ cause ≠ .isFolder := by
  have notFolder := t.failsOnly_lookup p
  unfold pathExists read
  cases found : t.lookup p with
  | error cause =>
    simp only [true_iff]
    exact ⟨cause, rfl, notFolder.fault found⟩
  | ok entry => cases entry <;> simp

theorem pathExists_of_read {t : FileTree} {p : Path} {bytes : ByteArray}
    (h : t.read p = .ok bytes) : t.pathExists p = true := by
  by_contra nothing
  obtain ⟨cause, other, -⟩ := pathExists_eq_false_iff.1 (Bool.not_eq_true _ ▸ nothing)
  rw [h] at other
  cases other

theorem pathExists_of_isFolder {t : FileTree} {p : Path} (h : t.read p = .error .isFolder) :
    t.pathExists p = true := by
  by_contra nothing
  obtain ⟨cause, same, other⟩ := pathExists_eq_false_iff.1 (Bool.not_eq_true _ ▸ nothing)
  rw [h, Except.error.injEq] at same
  exact other same.symm

section

variable {t t' : FileTree} {p : Path}

theorem pathExists_congr (same : t'.read p = t.read p) : t'.pathExists p = t.pathExists p := by
  apply Bool.eq_iff_iff.2
  rw [← not_iff_not, Bool.not_eq_true, Bool.not_eq_true, pathExists_eq_false_iff,
    pathExists_eq_false_iff, same]

theorem readText_congr (same : t'.read p = t.read p) : t'.readText p = t.readText p := by
  unfold readText
  rw [same]

end

end FileTree

/-! ## What the files say -/

/-- What comes of a JSON file: its bytes cannot be read, are not text or do not describe a value, or
they do. -/
inductive ReadsJson {α : Type} (tree : FileTree) (path : Path) (decode : Json.Decoder α) :
    Except Fault α → Prop
  | unreadable {cause : IoFault} : tree.read path = .error cause →
    ReadsJson tree path decode (.error (.manifest (.unreadable path cause)))
  | notText {bytes : ByteArray} : tree.read path = .ok bytes → String.fromUTF8? bytes = none →
    ReadsJson tree path decode (.error (.manifest (.unreadable path .notUtf8)))
  | malformed {bytes : ByteArray} {text : String} : tree.read path = .ok bytes →
    String.fromUTF8? bytes = some text → (Json.parse text >>= decode) = none →
    ReadsJson tree path decode (.error (.manifest (.malformed path)))
  | value {bytes : ByteArray} {text : String} {a : α} : tree.read path = .ok bytes →
    String.fromUTF8? bytes = some text → (Json.parse text >>= decode) = some a →
    ReadsJson tree path decode (.ok a)

/-- What comes of a file of symbols.  It may be absent, but if there is anything at its path, that
must describe two lists that are not empty. -/
inductive ReadsSymbols (tree : FileTree) (path : Path) : Except Fault SymbolTable → Prop
  | absent {cause : IoFault} : tree.read path = .error cause → cause ≠ .isFolder →
    ReadsSymbols tree path (.ok .builtIn)
  | folder : tree.read path = .error .isFolder →
    ReadsSymbols tree path (.error (.io .isFolder))
  | notText {bytes : ByteArray} : tree.read path = .ok bytes → String.fromUTF8? bytes = none →
    ReadsSymbols tree path (.error (.io .notUtf8))
  | malformed {bytes : ByteArray} {text : String} : tree.read path = .ok bytes →
    String.fromUTF8? bytes = some text → (Json.parse text >>= SymbolTable.ofJson?) = none →
    ReadsSymbols tree path (.error (.manifest (.malformed path)))
  | emptyList {bytes : ByteArray} {text : String} {table : SymbolTable} :
    tree.read path = .ok bytes → String.fromUTF8? bytes = some text →
    (Json.parse text >>= SymbolTable.ofJson?) = some table →
    table.phonemes = [] ∨ table.accents = [] →
    ReadsSymbols tree path (.error (.manifest (.noSymbols path)))
  | table {bytes : ByteArray} {text : String} {table : SymbolTable} :
    tree.read path = .ok bytes → String.fromUTF8? bytes = some text →
    (Json.parse text >>= SymbolTable.ofJson?) = some table →
    table.phonemes ≠ [] → table.accents ≠ [] →
    ReadsSymbols tree path (.ok table)

section

variable {tree : FileTree} {path : Path}

theorem readsJson_readJson {α : Type} (decode : Json.Decoder α) :
    ReadsJson tree path decode (readJson tree path decode) := by
  unfold readJson FileTree.readText
  cases isRead : tree.read path with
  | error cause => exact .unreadable isRead
  | ok bytes =>
    simp only [except_ok_bind]
    cases isText : String.fromUTF8? bytes with
    | none => exact .notText isRead isText
    | some text =>
      simp only [Except.mapError, except_ok_bind]
      cases described : Json.parse text >>= decode with
      | none => exact .malformed isRead isText described
      | some a => exact .value isRead isText described

theorem readJson_eq_iff {α : Type} {decode : Json.Decoder α} {result : Except Fault α} :
    readJson tree path decode = result ↔ ReadsJson tree path decode result := by
  refine ⟨fun same => same ▸ readsJson_readJson decode, fun reads => ?_⟩
  unfold readJson FileTree.readText
  cases reads with
  | unreadable isRead => rw [isRead]; rfl
  | notText isRead isText => simp only [isRead, except_ok_bind, isText]; rfl
  | malformed isRead isText described =>
    simp only [isRead, except_ok_bind, isText, Except.mapError, described]
  | value isRead isText described =>
    simp only [isRead, except_ok_bind, isText, Except.mapError, described]

/-- Without anything at the path reading it fails, but not as for a folder. -/
theorem readsSymbols_loadOrBuiltIn (root : Path) :
    ReadsSymbols tree (root.join "symbols.json") (SymbolTable.loadOrBuiltIn tree root) := by
  unfold SymbolTable.loadOrBuiltIn SymbolTable.load FileTree.readText SymbolTable.fileName
  split
  case isFalse nothing =>
    rw [Bool.not_eq_true, FileTree.pathExists_eq_false_iff] at nothing
    obtain ⟨cause, isRead, other⟩ := nothing
    exact .absent isRead other
  case isTrue something =>
    cases isRead : tree.read (root.join "symbols.json") with
    | error cause =>
      by_cases isFolder : cause = .isFolder
      · subst isFolder
        exact .folder isRead
      · rw [FileTree.pathExists_eq_false_iff.2 ⟨cause, isRead, isFolder⟩] at something
        cases something
    | ok bytes =>
      simp only [except_ok_bind]
      cases isText : String.fromUTF8? bytes with
      | none => exact .notText isRead isText
      | some text =>
        simp only [Except.mapError, except_ok_bind]
        cases described : Json.parse text >>= SymbolTable.ofJson? with
        | none => exact .malformed isRead isText described
        | some table =>
          simp only [Bool.or_eq_true, List.isEmpty_iff]
          split
          case isTrue empty => exact .emptyList isRead isText described empty
          case isFalse filled =>
            rw [not_or] at filled
            exact .table isRead isText described filled.1 filled.2

theorem loadOrBuiltIn_eq_iff {root : Path} {result : Except Fault SymbolTable} :
    SymbolTable.loadOrBuiltIn tree root = result ↔
      ReadsSymbols tree (root.join "symbols.json") result := by
  refine ⟨fun same => same ▸ readsSymbols_loadOrBuiltIn root, fun reads => ?_⟩
  unfold SymbolTable.loadOrBuiltIn SymbolTable.load FileTree.readText SymbolTable.fileName
  cases reads with
  | absent isRead other =>
    have nothing := FileTree.pathExists_eq_false_iff.2 ⟨_, isRead, other⟩
    simp only [nothing, Bool.false_eq_true, if_false]
  | folder isRead =>
    rw [if_pos (FileTree.pathExists_of_isFolder isRead), isRead]
    rfl
  | notText isRead isText =>
    rw [if_pos (FileTree.pathExists_of_read isRead)]
    simp only [isRead, except_ok_bind, isText]
    rfl
  | malformed isRead isText described =>
    rw [if_pos (FileTree.pathExists_of_read isRead)]
    simp only [isRead, except_ok_bind, isText, Except.mapError, described]
  | emptyList isRead isText described empty =>
    rw [if_pos (FileTree.pathExists_of_read isRead)]
    simp only [isRead, except_ok_bind, isText, Except.mapError, described]
    exact if_pos (by simpa using empty)
  | table isRead isText described phonemes accents =>
    rw [if_pos (FileTree.pathExists_of_read isRead)]
    simp only [isRead, except_ok_bind, isText, Except.mapError, described]
    exact if_neg (by simpa using ⟨phonemes, accents⟩)

theorem readModel_eq_ok_iff {stage : Stage} {folder : Path} {bytes : ByteArray} :
    stage.readModel tree folder = .ok bytes ↔ tree.read (stage.path folder) = .ok bytes :=
  mapError_eq_ok_iff

theorem readModel_eq_error_iff {stage : Stage} {folder : Path} {fault : Fault} :
    stage.readModel tree folder = .error fault ↔
      ∃ cause, tree.read (stage.path folder) = .error cause ∧
        fault = .manifest (.noModel (stage.path folder) cause) :=
  mapError_eq_error_iff

end

/-! ## The same files -/

section

variable {tree tree' : FileTree} {root : Path}

theorem readJson_congr {α : Type} {path : Path} (decode : Json.Decoder α)
    (same : tree'.read path = tree.read path) :
    readJson tree' path decode = readJson tree path decode := by
  unfold readJson
  rw [FileTree.readText_congr same]

theorem loadOrBuiltIn_congr
    (same : tree'.read (root.join SymbolTable.fileName) =
      tree.read (root.join SymbolTable.fileName)) :
    SymbolTable.loadOrBuiltIn tree' root = SymbolTable.loadOrBuiltIn tree root := by
  unfold SymbolTable.loadOrBuiltIn SymbolTable.load
  rw [FileTree.pathExists_congr same, FileTree.readText_congr same]

end

end KanaVoice
