import KanaVoice.Proofs.Engine.Resolution
import KanaVoice.Proofs.Engine.Steps
import KanaVoice.Proofs.Json.Record
import KanaVoice.Proofs.Library.Checklist
set_option autoImplicit false

/-!
# The speakers of an engine

A started engine lists the speakers of the usable libraries, library by library in the order of
their names.  The list is written from the roll of the catalogue, and the roll is what was read at
the start, whichever models have been loaded since; so the text is the same after any requests, and
it is read as the lists of the libraries, one behind the other.
-/

namespace KanaVoice

/-! ## Speakers, written and read

Speakers are read from their JSON text as they were, whatever their names, numbers and styles are.
What a library lists is read in the same way from its file. -/

/-! ### Styles -/

namespace Style

theorem isPlain_toJson (s : Style) : s.toJson.IsPlain := by
  refine .object ?_
  simp only [List.forall_mem_cons]
  exact ⟨.string _, .number (Numeral.isWritten_ofInt _), nofun⟩

theorem ofJson?_toJson (s : Style) : ofJson? s.toJson = some s := by
  have fields : Json.fields? ["name", "id"] s.toJson = some ⟨false, _⟩ :=
    Json.fields?_object rfl (by decide)
  unfold ofJson?
  rw [fields]
  show (do
    let id ← Json.int64? (.number (.ofInt s.id.toInt))
    some (Style.mk s.name id)) = _
  rw [Json.int64?_ofInt]
  rfl

end Style

/-! ### Speakers -/

namespace Speaker

theorem isPlain_toJson (s : Speaker) : s.toJson.IsPlain := by
  have styles : (Json.array (s.styles.map Style.toJson)).IsPlain :=
    Json.isPlain_array fun style _ => style.isPlain_toJson
  refine .object ?_
  simp only [List.forall_mem_cons]
  exact ⟨.string _, styles, .string _, .string _, nofun⟩

theorem ofJson?_toJson (s : Speaker) : ofJson? s.toJson = some s := by
  have fields : Json.fields? ["name", "styles", "speaker_uuid", "version"] s.toJson =
      some ⟨false, _⟩ :=
    Json.fields?_object rfl (by decide)
  have styles : Json.list? Style.ofJson? (.array (s.styles.map Style.toJson)) = some s.styles := by
    rw [Json.list?_array_of_forall fun style _ => style.ofJson?_toJson]
  unfold ofJson?
  rw [fields]
  show (do
    let styles ← Json.list? Style.ofJson? (.array (s.styles.map Style.toJson))
    some (Speaker.mk s.name styles s.uuid s.version)) = _
  rw [styles]
  rfl

/-! ### Lists of speakers -/

/-- The speakers that a text lists. -/
def readList? (text : String) : Option (List Speaker) := Json.parse text >>= Json.list? ofJson?

/-- Speakers are read from their text as they were. -/
theorem readList?_listJson (speakers : List Speaker) :
    readList? (listJson speakers) = some speakers := by
  unfold readList? listJson
  rw [Json.parse_render (Json.isPlain_array fun s _ => s.isPlain_toJson), Option.bind_eq_bind,
    Option.bind_some, Json.list?_array_of_forall fun s _ => s.ofJson?_toJson]

/-- The text of the file lists these speakers. -/
def AreListed (tree : FileTree) (path : Path) (speakers : List Speaker) : Prop :=
  ∃ text, tree.readText path = .ok text ∧ readList? text = some speakers

theorem loadAll_eq_ok_iff {tree : FileTree} {folder : Path} {speakers : List Speaker} :
    loadAll tree folder = .ok speakers ↔ AreListed tree (folder.join fileName) speakers := by
  unfold loadAll readJson AreListed
  rw [except_bind_eq_ok_iff]
  simp only [mapError_eq_ok_iff]
  refine exists_congr fun text => and_congr_right fun _ => ?_
  unfold readList?
  cases Json.parse text >>= Json.list? ofJson? <;> simp

end Speaker

/-! ## The list -/

variable {S : Type}

namespace Catalogue

theorem speakers_eq_roll (c : Catalogue S) : c.speakers = (c.roll.map Prod.snd).flatten := by
  rw [speakers, roll, List.map_map, List.flatMap_def]
  rfl

theorem speakersJson_of_roll {c c' : Catalogue S} (same : c'.roll = c.roll) :
    c'.speakersJson = c.speakersJson := by
  rw [speakersJson, speakersJson, speakers_eq_roll, speakers_eq_roll, same]

end Catalogue

/-- The text lists the speakers of the libraries of these names one after another: these are the
usable libraries under the root, in the order of the bytes of their names, and the lists are those
that their files hold. -/
structure Speaker.Merges (tree : FileTree) (root : Path) (names : List String)
    (lists : List (List Speaker)) (text : String) : Prop where
  usable : ∀ name, name ∈ names ↔ IsUsable tree root name
  ascending : names.Pairwise fun name later => Text.bytes name < Text.bytes later
  listed : List.Forall₂
    (fun name speakers => AreListed tree ((root.join name).join fileName) speakers) names lists
  merged : readList? text = some lists.flatten

theorem Catalogue.Lists.merges {tree : FileTree} {root : Path} {c : Catalogue S}
    (h : c.Lists tree root) :
    Speaker.Merges tree root (usableNames tree root) (c.roll.map Prod.snd) c.speakersJson where
  usable _ := mem_usableNames_iff
  ascending := pairwise_usableNames tree root
  listed := by
    obtain ⟨m, isManifest, names⟩ := h.names
    rw [usableNames_of_load isManifest, ← names, List.forall₂_map_left_iff,
      List.forall₂_map_right_iff, List.forall₂_same]
    intro entry mem
    exact Speaker.loadAll_eq_ok_iff.1 (h.speakers entry mem)
  merged := by
    rw [speakersJson, Speaker.readList?_listJson, speakers_eq_roll]

namespace Engine

theorem outcome_speakersJson {e : Engine S} {v : Voices S} (started : e.voices = some v) :
    outcome speakersJson e = (.ok v.catalogue.speakersJson, e) := by
  unfold speakersJson
  rw [outcome_bind, outcome_requireVoices_of_started started]
  rfl

/-- Whatever is requested of an engine that has been started, it answers with one and the same list
of speakers, and this merges the lists of the usable libraries. -/
theorem merges_of_start {b : Backend S} {tree : FileTree} {root : Path}
    {options : CatalogueOptions} {e₀ e₁ : Engine S}
    (opened : outcome (start b tree root options) e₀ = (.ok (), e₁)) :
    ∃ names lists text, Speaker.Merges tree root names lists text ∧
      ∀ requests : List Request,
        outcome speakersJson (serve b requests e₁) = (.ok text, serve b requests e₁) := by
  obtain ⟨v, started, -, fresh, isRead, kept⟩ := openedAs_of_start opened
  have lists : v.catalogue.Lists tree root := (Catalogue.lists_of_read isRead).of_roll kept.roll
  refine ⟨_, _, _, lists.merges, ?_⟩
  intro requests
  obtain ⟨_, v', -, started', -, advance⟩ :=
    (advance_serve b requests e₁).started v started lists.distinct
  rw [outcome_speakersJson started', Catalogue.speakersJson_of_roll advance.roll]

/-- The shared files, where the speaker of the library that comes first has another name and one
more style. -/
def mergedTree : FileTree :=
  sharedTree.put ["voices", "B", "metas.json"]
    (.file "[[\"\\n\\u3042\",[[\"\",-9223372036854775808],[\"style\",7]],\"\",\"2\"]]".toUTF8)

/-- The speakers of the shared files and of those merged here. -/
def mergedSpeakers : List (List Speaker) :=
  [[⟨"\nあ", [⟨"", Int64.minValue⟩, ⟨"style", 7⟩], "", "2"⟩],
   [⟨"speaker", [⟨"style", 7⟩], "", ""⟩]]

theorem outcome_start_merged : ∃ e₁ v,
    outcome (start questionBackend mergedTree ⟨"voices"⟩ {}) {} = (.ok (), e₁) ∧
      e₁.voices = some v ∧ v.catalogue.speakers = mergedSpeakers.flatten := by
  obtain ⟨⟨⟩, e₁, answer, v, started, speakers⟩ := exists_answer
    (x := outcome (start questionBackend mergedTree ⟨"voices"⟩ {}) {})
    (p := fun _ e => ∃ v ∈ e.voices, v.catalogue.speakers = mergedSpeakers.flatten)
    (by decide +kernel)
  exact ⟨e₁, v, answer, started, speakers⟩

theorem merges_of_start_merged : ∃ e₁ names lists text,
    outcome (start questionBackend mergedTree ⟨"voices"⟩ {}) {} = (.ok (), e₁) ∧
      Speaker.Merges mergedTree ⟨"voices"⟩ names lists text ∧
      lists.flatten = mergedSpeakers.flatten ∧
      ∀ requests : List Request, outcome speakersJson (serve questionBackend requests e₁) =
        (.ok text, serve questionBackend requests e₁) := by
  obtain ⟨e₁, v, opened, started, speakers⟩ := outcome_start_merged
  obtain ⟨names, lists, text, merges, answers⟩ := merges_of_start opened
  refine ⟨e₁, names, lists, text, opened, merges, ?_, answers⟩
  have answer : outcome speakersJson e₁ = (.ok text, e₁) := answers []
  rw [outcome_speakersJson started, Prod.mk.injEq, Except.ok.injEq] at answer
  have found := merges.merged
  rw [← answer.1, Catalogue.speakersJson, Speaker.readList?_listJson, speakers] at found
  exact (Option.some.inj found).symm

end Engine

end KanaVoice
