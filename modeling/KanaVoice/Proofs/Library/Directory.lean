import KanaVoice.Proofs.Library.Opening
import KanaVoice.Proofs.Text.Basic
set_option autoImplicit false

/-!
# Who a style belongs to

A style belongs to the last of the usable libraries that declare it, in the order of the bytes of
their names.  The same comes out when the libraries are taken in their order and the styles of each
are entered into a table, where a later entry takes the place of an earlier one.  The table depends
on the names and the speakers of the libraries alone, and these stay what they were read as.
-/

namespace KanaVoice

variable {S : Type}

/-! ## Declarations -/

/-- The list of libraries under the root says that the library of this name may be used. -/
def IsUsable (tree : FileTree) (root : Path) (name : String) : Prop :=
  ∃ m, Manifest.load tree root = .ok m ∧ (name, true) ∈ m

/-- The usable library of this name has a speaker with the style. -/
structure Declares (tree : FileTree) (root : Path) (name : String) (style : Int64) : Prop where
  usable : IsUsable tree root name
  listed : ∃ speakers, Speaker.loadAll tree (root.join name) = .ok speakers ∧
    ∃ speaker ∈ speakers, ∃ s ∈ speaker.styles, s.id = style

/-- The library of this name is the last of those that declare the style. -/
structure Owns (tree : FileTree) (root : Path) (name : String) (style : Int64) : Prop where
  declares : Declares tree root name style
  last : ∀ other, Declares tree root other style →
    other = name ∨ Text.bytes other < Text.bytes name

/-- No usable library has a speaker with the style. -/
def Undeclared (tree : FileTree) (root : Path) (style : Int64) : Prop :=
  ∀ name, ¬ Declares tree root name style

theorem Manifest.mem_usable_iff {m : Manifest} {name : String} :
    name ∈ m.usable ↔ (name, true) ∈ m := by
  simp [usable]

/-- A style has one owner at most. -/
theorem Owns.eq {tree : FileTree} {root : Path} {name other : String} {style : Int64}
    (h : Owns tree root name style) (h' : Owns tree root other style) : other = name := by
  rcases h.last other h'.declares with same | below
  · exact same
  · rcases h'.last name h.declares with same | above
    · exact same.symm
    · exact absurd above (List.lt_asymm below)

theorem mem_styleIds_iff {speakers : List Speaker} {style : Int64} :
    style ∈ styleIds speakers ↔ ∃ speaker ∈ speakers, ∃ s ∈ speaker.styles, s.id = style := by
  simp [styleIds]

theorem VoiceLibrary.serves_iff {l : VoiceLibrary S} {style : Int64} :
    l.serves style = true ↔ style ∈ styleIds l.speakers := by
  rw [serves, List.contains_iff_mem]

/-! ## The roll of a catalogue -/

namespace Catalogue

/-- The names of the libraries with their speakers. -/
def roll (c : Catalogue S) : List (String × List Speaker) :=
  c.libraries.map fun l => (l.name, l.speakers)

/-- The roll is that of the usable libraries under the root, in the order of the list. -/
structure Lists (tree : FileTree) (root : Path) (c : Catalogue S) : Prop where
  names : ∃ m, Manifest.load tree root = .ok m ∧ c.roll.map Prod.fst = m.usable
  speakers : ∀ entry ∈ c.roll, Speaker.loadAll tree (root.join entry.1) = .ok entry.2

theorem map_fst_roll (c : Catalogue S) :
    c.roll.map Prod.fst = c.libraries.map VoiceLibrary.name := by
  rw [roll, List.map_map]
  rfl

theorem mem_roll {c : Catalogue S} {l : VoiceLibrary S} (h : l ∈ c.libraries) :
    (l.name, l.speakers) ∈ c.roll :=
  List.mem_map.2 ⟨l, h, rfl⟩

theorem lists_of_read {devices : DeviceSet} {tree : FileTree} {root : Path}
    {options : CatalogueOptions} {c : Catalogue S} (h : read devices tree root options = .ok c) :
    c.Lists tree root := by
  obtain ⟨m, -, -, isManifest, areRead⟩ := steps_of_read h
  constructor
  case names =>
    refine ⟨m, isManifest, ?_⟩
    rw [map_fst_roll]
    exact VoiceLibrary.map_name_of_read areRead
  case speakers =>
    intro entry mem
    obtain ⟨l, isMem, rfl⟩ := List.mem_map.1 mem
    obtain ⟨name, -, isRead⟩ := exists_of_mem_mapM areRead isMem
    obtain ⟨speakers, _, areSpeakers, -, rfl⟩ := VoiceLibrary.steps_of_read isRead
    exact areSpeakers

/-- Loading everything keeps the roll. -/
theorem Opened.roll {loadAll : Bool} {fresh c : Catalogue S} (h : Opened loadAll fresh c) :
    c.roll = fresh.roll := by
  refine map_eq_of_forall₂ h.libraries fun l l' kept => ?_
  split at kept
  · obtain ⟨sessions, rfl⟩ := kept
    rfl
  · rw [kept]

/-- Whatever becomes of a catalogue, it keeps its roll. -/
theorem Advance.roll {asked : Int64 → Prop} {events : List (Event S)} {c c' : Catalogue S}
    (h : Advance asked events c c') : c'.roll = c.roll := by
  obtain ⟨f, libraries, each⟩ := h.libraries
  rw [Catalogue.roll, Catalogue.roll, libraries, List.map_map]
  apply List.map_congr_left
  intro l mem
  rw [Function.comp_apply, (each l mem).name, (each l mem).speakers]

theorem Lists.of_roll {tree : FileTree} {root : Path} {c c' : Catalogue S}
    (h : c.Lists tree root) (same : c'.roll = c.roll) : c'.Lists tree root where
  names := by
    rw [same]
    exact h.names
  speakers := by
    rw [same]
    exact h.speakers

/-- An opened catalogue lists what is under the root. -/
theorem lists_of_openAt {b : Backend S} {tree : FileTree} {root : Path}
    {options : CatalogueOptions} {c : Catalogue S} {history history' : History S}
    (h : outcome (openAt b tree root options) history = (.ok c, history')) :
    c.Lists tree root := by
  obtain ⟨fresh, isRead, opened⟩ := opened_of_openAt h
  exact (lists_of_read isRead).of_roll opened.roll

/-! ## The last library that serves a style -/

/-- None of the libraries behind the one that a style belongs to serves it. -/
theorem split_of_library? {c : Catalogue S} {style : Int64} {l : VoiceLibrary S}
    (h : c.library? style = some l) :
    ∃ before after, c.libraries = before ++ l :: after ∧
      ∀ other ∈ after, other.serves style = false := by
  rw [library?, List.findRev?_eq_find?_reverse, List.find?_eq_some_iff_append] at h
  obtain ⟨-, after, before, reversed, none⟩ := h
  refine ⟨before.reverse, after.reverse, ?_, ?_⟩
  · rw [← List.reverse_reverse c.libraries, reversed]
    simp
  · intro other mem
    have refused := none other (List.mem_reverse.1 mem)
    rwa [Bool.not_eq_true'] at refused

section

variable {tree : FileTree} {root : Path} {c : Catalogue S} (h : c.Lists tree root)

include h

theorem Lists.pairwise : c.libraries.Pairwise fun l l' => l.name < l'.name := by
  obtain ⟨m, isManifest, names⟩ := h.names
  have ascending := Manifest.pairwise_usable (Manifest.ascending_of_load isManifest)
  rw [← names, map_fst_roll] at ascending
  exact List.pairwise_map.1 ascending

/-- No two libraries have the same name. -/
theorem Lists.distinct : c.Distinct :=
  List.pairwise_map.2 (h.pairwise.imp ne_of_lt)

theorem Lists.exists_mem_iff (name : String) :
    (∃ l ∈ c.libraries, l.name = name) ↔ IsUsable tree root name := by
  obtain ⟨m, isManifest, names⟩ := h.names
  have listed : name ∈ m.usable ↔ ∃ l ∈ c.libraries, l.name = name := by
    rw [← names, map_fst_roll, List.mem_map]
  rw [← listed, Manifest.mem_usable_iff]
  constructor
  · intro mem
    exact ⟨m, isManifest, mem⟩
  · rintro ⟨m', isManifest', mem⟩
    rw [isManifest] at isManifest'
    cases isManifest'
    exact mem

/-- A library of the catalogue serves the styles that it declares. -/
theorem Lists.declares_iff {l : VoiceLibrary S} (mem : l ∈ c.libraries) (style : Int64) :
    Declares tree root l.name style ↔ l.serves style = true := by
  have own := h.speakers _ (mem_roll mem)
  rw [VoiceLibrary.serves_iff, mem_styleIds_iff]
  constructor
  · rintro ⟨-, speakers, isList, listed⟩
    rw [own] at isList
    cases isList
    exact listed
  · intro listed
    exact ⟨(h.exists_mem_iff l.name).1 ⟨l, mem, rfl⟩, l.speakers, own, listed⟩

theorem Lists.exists_declares {name : String} {style : Int64}
    (declares : Declares tree root name style) :
    ∃ l ∈ c.libraries, l.name = name ∧ l.serves style = true := by
  obtain ⟨l, mem, rfl⟩ := (h.exists_mem_iff name).2 declares.usable
  exact ⟨l, mem, rfl, (h.declares_iff mem style).1 declares⟩

theorem Lists.owns_of_library? {style : Int64} {l : VoiceLibrary S}
    (found : c.library? style = some l) : Owns tree root l.name style where
  declares := (h.declares_iff (mem_of_library? found) style).2 (serves_of_library? found)
  last := by
    intro other declares
    obtain ⟨l', mem, rfl, serves⟩ := h.exists_declares declares
    obtain ⟨before, after, split, none⟩ := split_of_library? found
    rw [split] at mem
    rcases List.mem_append.1 mem with isBefore | mem
    · right
      have ascending := h.pairwise
      rw [split] at ascending
      obtain ⟨-, -, below⟩ := List.pairwise_append.1 ascending
      exact Text.bytes_lt_of_lt (below l' isBefore l List.mem_cons_self)
    · rcases List.mem_cons.1 mem with same | isAfter
      · rw [same]
        exact .inl rfl
      · rw [none l' isAfter] at serves
        cases serves

theorem Lists.library?_eq_none_iff (style : Int64) :
    c.library? style = none ↔ Undeclared tree root style := by
  constructor
  · intro absent name declares
    obtain ⟨l, mem, -, serves⟩ := h.exists_declares declares
    rw [library?, List.findRev?_eq_find?_reverse, List.find?_eq_none] at absent
    exact absent l (List.mem_reverse.2 mem) serves
  · intro undeclared
    cases found : c.library? style with
    | none => rfl
    | some l => exact absurd (h.owns_of_library? found).declares (undeclared l.name)

/-- A style belongs to the library that owns it. -/
theorem Lists.libraryName?_eq_some_iff {style : Int64} {name : String} :
    c.libraryName? style = some name ↔ Owns tree root name style := by
  rw [libraryName?, Option.map_eq_some_iff]
  constructor
  · rintro ⟨l, found, rfl⟩
    exact h.owns_of_library? found
  · intro owns
    cases found : c.library? style with
    | none => exact absurd owns.declares ((h.library?_eq_none_iff style).1 found name)
    | some l => exact ⟨l, rfl, owns.eq (h.owns_of_library? found)⟩

end

end Catalogue

/-! ## The table of styles -/

/-- The name of the library that each style belongs to. -/
abbrev Directory := Std.HashMap Int64 String

namespace Directory

/-- The table with the styles of a library entered, whoever had them before. -/
def enter (d : Directory) (entry : String × List Speaker) : Directory :=
  (styleIds entry.2).foldl (fun d style => d.insert style entry.1) d

theorem getElem?_foldl_insert (styles : List Int64) (name : String) (d : Directory)
    (style : Int64) :
    (styles.foldl (fun (d : Directory) style => d.insert style name) d)[style]? =
      if style ∈ styles then some name else d[style]? := by
  induction styles generalizing d with
  | nil => simp
  | cons first rest ih =>
    rw [List.foldl_cons, ih, Std.HashMap.getElem?_insert]
    by_cases later : style ∈ rest
    · rw [if_pos later, if_pos (List.mem_cons_of_mem _ later)]
    · rw [if_neg later]
      by_cases same : first = style
      · simp [same]
      · have other : style ≠ first := Ne.symm same
        simp [same, other, later]

end Directory

namespace Catalogue

/-- The table of all styles, the libraries entered in their order. -/
def directory (c : Catalogue S) : Directory := c.roll.foldl Directory.enter ∅

theorem getElem?_foldl_enter (libraries : List (VoiceLibrary S)) (d : Directory) (style : Int64) :
    ((libraries.map fun l => (l.name, l.speakers)).foldl Directory.enter d)[style]? =
      ((libraries.findRev? (·.serves style)).map VoiceLibrary.name).or d[style]? := by
  induction libraries generalizing d with
  | nil => rfl
  | cons l rest ih =>
    rw [List.map_cons, List.foldl_cons, ih, Directory.enter, Directory.getElem?_foldl_insert]
    rw [List.findRev?_eq_find?_reverse, List.findRev?_eq_find?_reverse, List.reverse_cons,
      List.find?_append]
    cases rest.reverse.find? (·.serves style) with
    | some later => rfl
    | none =>
      simp only [Option.map_none, Option.none_or, List.find?_singleton,
        ← VoiceLibrary.serves_iff]
      cases l.serves style <;> rfl

/-- Entering every library in its order finds the last one that serves a style. -/
theorem getElem?_directory (c : Catalogue S) (style : Int64) :
    c.directory[style]? = c.libraryName? style := by
  rw [directory, roll, getElem?_foldl_enter, Std.HashMap.getElem?_empty, Option.or_none]
  rfl

theorem directory_of_roll {c c' : Catalogue S} (same : c'.roll = c.roll) :
    c'.directory = c.directory := by
  rw [directory, same]
  rfl

end Catalogue

end KanaVoice
