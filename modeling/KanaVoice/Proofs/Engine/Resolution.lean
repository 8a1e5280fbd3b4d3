import KanaVoice.Proofs.Engine.LoadStates
import KanaVoice.Proofs.Library.Directory
set_option autoImplicit false

/-!
# Resolving styles

A catalogue that has been opened resolves styles as the files under its root say.  Only a style that
no usable library declares is unknown, to loads as to look-ups of sessions.  No request changes any
of this: whatever is asked of the engine that has the catalogue, the table of styles stays the one
that was read.
-/

namespace KanaVoice

variable {S : Type}

namespace Catalogue

/-- Loading does not know the speaker exactly when no library serves it. -/
theorem answer_load_eq_unknownSpeaker_iff (b : Backend S) (c : Catalogue S) (style : Int64)
    (history : History S) :
    (outcome (c.load b style) history).1 = .error (.unknownSpeaker style) ↔
      c.library? style = none := by
  unfold load library
  rw [outcome_bind, outcome_liftM]
  cases found : c.library? style with
  | none => simp
  | some l =>
    simp only [reduceCtorEq, iff_false]
    rw [outcome_bind]
    cases run : outcome (l.load b c.plan) history with
    | mk answer history' =>
      cases answer with
      | ok l' => simp
      | error fault =>
        obtain ⟨stage, reason, rfl⟩ := (KanaVoice.yields_load b c.plan l).fault run
        simp

/-- Nor does looking up sessions. -/
theorem sessions_eq_unknownSpeaker_iff (c : Catalogue S) (style : Int64) :
    c.sessions style = .error (.unknownSpeaker style) ↔ c.library? style = none := by
  unfold sessions library
  cases c.library? style with
  | none => simp [bind, Except.bind]
  | some l =>
    rw [except_ok_bind]
    cases l.state <;> simp

/-- Styles are resolved as the files under the root say. -/
structure Resolves (tree : FileTree) (root : Path) (c : Catalogue S) : Prop where
  /-- The table has the last of the usable libraries that declare a style, and no other name. -/
  owner : ∀ style name, c.directory[style]? = some name ↔ Owns tree root name style
  nobody : ∀ style, c.directory[style]? = none ↔ Undeclared tree root style
  /-- The libraries are the usable ones, each of them once. -/
  libraries : ∀ name, (∃ l ∈ c.libraries, l.name = name) ↔ IsUsable tree root name
  distinct : c.Distinct
  /-- A name in the table is that of a library, and this is the one that is looked up. -/
  entered : ∀ style name, c.directory[style]? = some name →
    ∃ l ∈ c.libraries, l.name = name ∧ c.library? style = some l
  /-- Exactly the undeclared styles are unknown. -/
  load : ∀ (b : Backend S) (history : History S) (style : Int64),
    (outcome (c.load b style) history).1 = .error (.unknownSpeaker style) ↔
      Undeclared tree root style
  sessions : ∀ style, c.sessions style = .error (.unknownSpeaker style) ↔
    Undeclared tree root style
  /-- An undeclared style is not loaded; any other one is loaded when its owner is. -/
  unknown : ∀ style, Undeclared tree root style → c.isLoaded style = false
  isLoaded : ∀ style, c.isLoaded style = true ↔
    ∃ l ∈ c.libraries, Owns tree root l.name style ∧ l.isLoaded = true

theorem Lists.resolves {tree : FileTree} {root : Path} {c : Catalogue S}
    (h : c.Lists tree root) : c.Resolves tree root where
  owner style name := by
    rw [getElem?_directory]
    exact h.libraryName?_eq_some_iff
  nobody style := by
    rw [getElem?_directory, libraryName?, Option.map_eq_none_iff]
    exact h.library?_eq_none_iff style
  libraries := h.exists_mem_iff
  distinct := h.distinct
  entered style name found := by
    rw [getElem?_directory] at found
    obtain ⟨l, isOwner, rfl⟩ := Option.map_eq_some_iff.1 found
    exact ⟨l, mem_of_library? isOwner, rfl, isOwner⟩
  load b history style := by
    rw [answer_load_eq_unknownSpeaker_iff]
    exact h.library?_eq_none_iff style
  sessions style := by
    rw [sessions_eq_unknownSpeaker_iff]
    exact h.library?_eq_none_iff style
  unknown style undeclared := by
    rw [Catalogue.isLoaded, (h.library?_eq_none_iff style).2 undeclared]
  isLoaded style := by
    rw [isLoaded_eq_true_iff]
    constructor
    · rintro ⟨l, found, loaded⟩
      exact ⟨l, mem_of_library? found, h.owns_of_library? found, loaded⟩
    · rintro ⟨l, mem, owns, loaded⟩
      obtain ⟨l', found, name⟩ := Option.map_eq_some_iff.1 (h.libraryName?_eq_some_iff.2 owns)
      -- No two libraries have the same name, so the owner is the library that was looked up.
      have same : l' = l :=
        List.inj_on_of_nodup_map h.distinct (mem_of_library? found) mem name
      rw [← same] at loaded
      exact ⟨l', found, loaded⟩

end Catalogue

namespace Engine

/-- An opened catalogue resolves styles as the files say, and it still does, by the same table, when
the engine that has it has served any requests. -/
theorem resolves_of_openAt {b : Backend S} {tree : FileTree} {root : Path}
    {options : CatalogueOptions} {c : Catalogue S} {history history' : History S}
    (opened : outcome (Catalogue.openAt b tree root options) history = (.ok c, history')) :
    c.Resolves tree root ∧
      ∀ (e : Engine S) (v : Voices S), e.voices = some v → v.catalogue = c →
        ∀ requests : List Request, ∃ v', (serve b requests e).voices = some v' ∧
          v'.catalogue.directory = c.directory ∧ v'.catalogue.Resolves tree root := by
  have lists := Catalogue.lists_of_openAt opened
  refine ⟨lists.resolves, ?_⟩
  rintro e v started rfl requests
  obtain ⟨events, v', -, started', -, advance⟩ :=
    (advance_serve b requests e).started v started lists.resolves.distinct
  refine ⟨v', started', ?_, ?_⟩
  · exact Catalogue.directory_of_roll advance.roll
  · exact (lists.of_roll advance.roll).resolves

/-- Files of three libraries with one style, the last of which may not be used. -/
def sharedTree : FileTree :=
  let list := FileTree.empty.put ["voices"] .folder
    |>.put ["voices", "libraries.json"]
      (.file "\x7b\"b\":true,\"B\":true,\"c\":false\x7d".toUTF8)
  ["b", "B", "c"].foldl (fun tree name =>
    tree.put ["voices", name] .folder
      |>.put ["voices", name, "metas.json"]
        (.file "[[\"speaker\",[[\"style\",7]],\"\",\"\"]]".toUTF8)
      |>.put ["voices", name, "variance_model.onnx"] (.file .empty)
      |>.put ["voices", name, "embedder_model.onnx"] (.file .empty)
      |>.put ["voices", name, "decoder_model.onnx"] (.file .empty)) list

theorem outcome_openAt_shared : ∃ c history,
    outcome (Catalogue.openAt questionBackend sharedTree ⟨"voices"⟩ {}) [] = (.ok c, history) ∧
      c.libraryName? 7 = some "b" ∧ c.libraryName? 8 = none :=
  exists_answer (by decide +kernel)

/-- Capitals come before small letters. -/
theorem resolves_of_openAt_shared : ∃ c history,
    outcome (Catalogue.openAt questionBackend sharedTree ⟨"voices"⟩ {}) [] = (.ok c, history) ∧
      c.directory[(7 : Int64)]? = some "b" ∧ Owns sharedTree ⟨"voices"⟩ "b" 7 ∧
      Undeclared sharedTree ⟨"voices"⟩ 8 ∧
      (outcome (c.load questionBackend 8) history).1 = .error (.unknownSpeaker 8) := by
  obtain ⟨c, history, opened, owner, nobody⟩ := outcome_openAt_shared
  obtain ⟨resolves, -⟩ := resolves_of_openAt opened
  rw [← Catalogue.getElem?_directory] at owner nobody
  have undeclared := (resolves.nobody 8).1 nobody
  refine ⟨c, history, opened, owner, (resolves.owner 7 "b").1 owner, undeclared, ?_⟩
  exact (resolves.load questionBackend history 8).2 undeclared

end Engine

end KanaVoice
