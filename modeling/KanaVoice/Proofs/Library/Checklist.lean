import KanaVoice.Proofs.Library.Directory
import KanaVoice.Proofs.Library.Files
set_option autoImplicit false

/-!
# What is checked before anything is loaded

Voices are read in a fixed order: the symbols, the device, the list of libraries, and then for each
usable library in the order of the names its speakers and its three model files.  This order is
written down here as a list of checks.  Every check looks at one file at most, and whether it is
broken is told by what the tree has at the path of that file.  Reading the voices is shown to fail
exactly with the fault of the first check that is broken, and what is read is the same for any two
trees that have the same in these files.
-/

namespace KanaVoice

/-! ## The checks -/

/-- Something that must be in order before an engine has its voices. -/
inductive Check where
  | symbols
  | device
  | libraryList
  | speakers (library : String)
  | model (library : String) (stage : Stage)
  deriving DecidableEq, Repr

namespace Check

/-- The file of a stage's model in a library's folder. -/
def modelPath (folder : Path) : Stage → Path
  | .variance => folder.join "variance_model.onnx"
  | .embedder => folder.join "embedder_model.onnx"
  | .decoder => folder.join "decoder_model.onnx"

theorem modelPath_eq (folder : Path) (stage : Stage) :
    modelPath folder stage = stage.path folder := by
  cases stage <;> rfl

/-- The file that is looked at. -/
def file? (root : Path) : Check → Option Path
  | .symbols => some (root.join "symbols.json")
  | .device => none
  | .libraryList => some (root.join "libraries.json")
  | .speakers library => some ((root.join library).join "metas.json")
  | .model library stage => some (modelPath (root.join library) stage)

variable (devices : DeviceSet) (tree : FileTree) (root : Path) (options : CatalogueOptions)

/-- What is looked at is as it has to be. -/
def InOrder : Check → Prop
  | .symbols => ∃ table, ReadsSymbols tree (root.join "symbols.json") (.ok table)
  | .device => options.useGpu = true → devices.cuda = true
  | .libraryList => ∃ m, ReadsJson tree (root.join "libraries.json") Manifest.ofJson? (.ok m)
  | .speakers library => ∃ speakers,
    ReadsJson tree ((root.join library).join "metas.json") (Json.list? Speaker.ofJson?)
      (.ok speakers)
  | .model library stage => ∃ bytes, tree.read (modelPath (root.join library) stage) = .ok bytes

/-- What is looked at is not as it has to be, and the fault says so. -/
def IsBroken : Check → Fault → Prop
  | .symbols, fault => ReadsSymbols tree (root.join "symbols.json") (.error fault)
  | .device, fault => options.useGpu = true ∧ devices.cuda = false ∧
    fault = .device "This library is CPU version. GPU is not supported."
  | .libraryList, fault =>
    ReadsJson tree (root.join "libraries.json") Manifest.ofJson? (.error fault)
  | .speakers library, fault =>
    ReadsJson tree ((root.join library).join "metas.json") (Json.list? Speaker.ofJson?)
      (.error fault)
  | .model library stage, fault =>
    ∃ cause, tree.read (modelPath (root.join library) stage) = .error cause ∧
      fault = .manifest (.noModel (modelPath (root.join library) stage) cause)

/-- Passes or says what is wrong. -/
def result : Check → Except Fault Unit
  | .symbols => asCheck (SymbolTable.loadOrBuiltIn tree root)
  | .device => asCheck (decoderDevice devices options.useGpu)
  | .libraryList => asCheck (Manifest.load tree root)
  | .speakers library => asCheck (Speaker.loadAll tree (root.join library))
  | .model library stage => asCheck (stage.readModel tree (root.join library))

variable {devices tree root options}

theorem result_eq_ok_iff (check : Check) :
    check.result devices tree root options = .ok () ↔
      check.InOrder devices tree root options := by
  cases check with
  | symbols =>
    rw [result, asCheck_eq_ok_iff]
    exact exists_congr fun table => loadOrBuiltIn_eq_iff
  | device =>
    rw [result, asCheck_eq_ok_iff, InOrder, decoderDevice]
    cases options.useGpu <;> cases h : devices.cuda <;>
      simp [DeviceSet.supports, Device.preferredGpu, h]
  | libraryList =>
    rw [result, asCheck_eq_ok_iff]
    exact exists_congr fun m => readJson_eq_iff
  | speakers library =>
    rw [result, asCheck_eq_ok_iff]
    exact exists_congr fun speakers => readJson_eq_iff
  | model library stage =>
    rw [result, asCheck_eq_ok_iff, InOrder, modelPath_eq]
    exact exists_congr fun bytes => readModel_eq_ok_iff

theorem result_eq_error_iff {fault : Fault} (check : Check) :
    check.result devices tree root options = .error fault ↔
      check.IsBroken devices tree root options fault := by
  cases check with
  | symbols => exact asCheck_eq_error_iff.trans loadOrBuiltIn_eq_iff
  | device =>
    rw [result, asCheck_eq_error_iff, IsBroken, decoderDevice]
    cases options.useGpu <;> cases h : devices.cuda <;>
      simp [DeviceSet.supports, Device.preferredGpu, h, eq_comm]
  | libraryList => exact asCheck_eq_error_iff.trans readJson_eq_iff
  | speakers library => exact asCheck_eq_error_iff.trans readJson_eq_iff
  | model library stage =>
    rw [result, asCheck_eq_error_iff, IsBroken, modelPath_eq]
    exact readModel_eq_error_iff

/-- The checks on a library. -/
def ofLibrary (library : String) : List Check :=
  [.speakers library, .model library .variance, .model library .embedder, .model library .decoder]

end Check

/-! ## The list -/

/-- The names of the usable libraries under a root; without a list of libraries there are none. -/
def usableNames (tree : FileTree) (root : Path) : List String :=
  match Manifest.load tree root with
  | .ok m => m.usable
  | .error _ => []

/-- All checks in their order. -/
def checklist (tree : FileTree) (root : Path) : List Check :=
  [.symbols, .device, .libraryList] ++ (usableNames tree root).flatMap Check.ofLibrary

theorem usableNames_of_load {tree : FileTree} {root : Path} {m : Manifest}
    (h : Manifest.load tree root = .ok m) : usableNames tree root = m.usable := by
  unfold usableNames
  rw [h]

theorem mem_usableNames_iff {tree : FileTree} {root : Path} {name : String} :
    name ∈ usableNames tree root ↔ IsUsable tree root name := by
  unfold usableNames IsUsable
  cases Manifest.load tree root with
  | error fault => simp
  | ok m => simp [Manifest.mem_usable_iff]

theorem isUsable_iff {tree : FileTree} {root : Path} {name : String} :
    IsUsable tree root name ↔
      ∃ m, ReadsJson tree (root.join "libraries.json") Manifest.ofJson? (.ok m) ∧
        (name, true) ∈ m :=
  exists_congr fun _ => and_congr_left' readJson_eq_iff

theorem pairwise_usableNames (tree : FileTree) (root : Path) :
    (usableNames tree root).Pairwise fun a b => Text.bytes a < Text.bytes b := by
  unfold usableNames
  cases isManifest : Manifest.load tree root with
  | error fault => exact .nil
  | ok m =>
    refine (Manifest.pairwise_usable (Manifest.ascending_of_load isManifest)).imp ?_
    intro a b below
    exact Text.bytes_lt_iff.2 below

section

variable (devices : DeviceSet) (tree : FileTree) (root : Path) (options : CatalogueOptions)

/-- Nothing on the list is broken. -/
def AllInOrder : Prop :=
  ∀ check ∈ checklist tree root, check.InOrder devices tree root options

/-- The fault is that of the first check on the list that is broken: all before it are in order. -/
def FirstBroken (fault : Fault) : Prop :=
  ∃ before check after, checklist tree root = before ++ check :: after ∧
    (∀ c ∈ before, c.InOrder devices tree root options) ∧
    check.IsBroken devices tree root options fault

variable {devices tree root options}

theorem passes_result_iff :
    Passes (Check.result devices tree root options) (checklist tree root) ↔
      AllInOrder devices tree root options := by
  simp only [AllInOrder, Passes, Check.result_eq_ok_iff]

theorem failsFirst_result_iff {fault : Fault} :
    FailsFirst (Check.result devices tree root options) (checklist tree root) fault ↔
      FirstBroken devices tree root options fault := by
  rw [failsFirst_iff]
  simp only [FirstBroken, Passes, Check.result_eq_ok_iff, Check.result_eq_error_iff]

variable (devices tree root options)

theorem allInOrder_or_firstBroken :
    AllInOrder devices tree root options ∨ ∃ fault, FirstBroken devices tree root options fault := by
  simp only [← passes_result_iff, ← failsFirst_result_iff]
  exact passes_or_failsFirst _ _

end

/-! ## Reading the voices -/

section

variable {S : Type} {devices : DeviceSet} {tree : FileTree} {root : Path}
  {options : CatalogueOptions}

/-- Reading a library fails as the checks on it do. -/
theorem asCheck_readLibrary (name : String) :
    asCheck (VoiceLibrary.read tree root name : Except Fault (VoiceLibrary S)) =
      forM (Check.ofLibrary name) (Check.result devices tree root options) := by
  unfold VoiceLibrary.read ModelFiles.read Check.ofLibrary
  simp only [List.forM_cons, List.forM_nil, Check.result]
  refine asCheck_seq fun speakers _ => ?_
  cases Stage.readModel .variance tree (root.join name) with
  | error fault => rfl
  | ok variance =>
    cases Stage.readModel .embedder tree (root.join name) with
    | error fault => rfl
    | ok embedder => cases Stage.readModel .decoder tree (root.join name) <;> rfl

/-- Reading a catalogue fails as the checks after that on the symbols do. -/
theorem asCheck_readCatalogue :
    asCheck (Catalogue.read devices tree root options : Except Fault (Catalogue S)) =
      forM ([.device, .libraryList] ++ (usableNames tree root).flatMap Check.ofLibrary)
        (Check.result devices tree root options) := by
  unfold Catalogue.read
  simp only [List.cons_append, List.nil_append, List.forM_cons, Check.result]
  refine asCheck_seq fun device _ => asCheck_seq fun m isManifest => ?_
  rw [asCheck_finish, asCheck_mapM, usableNames_of_load isManifest, forM_flatMap]
  exact congrArg (forM m.usable) (funext fun name => asCheck_readLibrary name)

/-- The voices under a root before anything is loaded. -/
def Voices.read (devices : DeviceSet) (tree : FileTree) (root : Path)
    (options : CatalogueOptions) : Except Fault (Voices S) := do
  let symbols ← SymbolTable.loadOrBuiltIn tree root
  let catalogue ← Catalogue.read devices tree root options
  .ok { catalogue, symbols }

/-- Reading the voices fails as the checks on the list do. -/
theorem asCheck_readVoices :
    asCheck (Voices.read devices tree root options : Except Fault (Voices S)) =
      forM (checklist tree root) (Check.result devices tree root options) := by
  unfold Voices.read checklist
  rw [List.cons_append, List.forM_cons, ← asCheck_readCatalogue (S := S)]
  exact asCheck_seq fun symbols _ => asCheck_finish _ _

theorem readVoices_eq_error_iff {fault : Fault} :
    (Voices.read devices tree root options : Except Fault (Voices S)) = .error fault ↔
      FirstBroken devices tree root options fault := by
  rw [← asCheck_eq_error_iff, asCheck_readVoices, forM_eq_error_iff, failsFirst_result_iff]

theorem exists_readVoices_iff :
    (∃ v : Voices S, Voices.read devices tree root options = .ok v) ↔
      AllInOrder devices tree root options := by
  rw [← asCheck_eq_ok_iff, asCheck_readVoices, forM_eq_ok_iff, passes_result_iff]

/-- The library is what the four files in its folder say, not loaded yet. -/
structure VoiceLibrary.IsReadFrom (tree : FileTree) (root : Path) (name : String)
    (l : VoiceLibrary S) : Prop where
  named : l.name = name
  located : l.folder = root.join name
  speakers : ReadsJson tree ((root.join name).join "metas.json") (Json.list? Speaker.ofJson?)
    (.ok l.speakers)
  models : ∃ models, l.state = .unloaded models ∧
    tree.read ((root.join name).join "variance_model.onnx") = .ok models.variance ∧
    tree.read ((root.join name).join "embedder_model.onnx") = .ok models.embedder ∧
    tree.read ((root.join name).join "decoder_model.onnx") = .ok models.decoder

theorem VoiceLibrary.isReadFrom_of_read {name : String} {l : VoiceLibrary S}
    (h : VoiceLibrary.read tree root name = .ok l) : l.IsReadFrom tree root name := by
  unfold VoiceLibrary.read ModelFiles.read at h
  obtain ⟨speakers, areSpeakers, h⟩ := except_bind_eq_ok_iff.1 h
  obtain ⟨models, areModels, h⟩ := except_bind_eq_ok_iff.1 h
  obtain ⟨variance, isVariance, more⟩ := except_bind_eq_ok_iff.1 areModels
  obtain ⟨embedder, isEmbedder, more⟩ := except_bind_eq_ok_iff.1 more
  obtain ⟨decoder, isDecoder, last⟩ := except_bind_eq_ok_iff.1 more
  cases last
  cases h
  rw [readModel_eq_ok_iff] at isVariance isEmbedder isDecoder
  exact {
    named := rfl
    located := rfl
    speakers := readJson_eq_iff.1 areSpeakers
    models := ⟨⟨variance, embedder, decoder⟩, rfl, isVariance, isEmbedder, isDecoder⟩ }

theorem VoiceLibrary.unloaded_of_isReadFrom {names : List String}
    {libraries : List (VoiceLibrary S)}
    (h : List.Forall₂ (VoiceLibrary.IsReadFrom tree root) names libraries) :
    ∀ l ∈ libraries, l.isLoaded = false := by
  induction h with
  | nil => exact nofun
  | cons first _ ih =>
    obtain ⟨models, state, -⟩ := first.models
    exact List.forall_mem_cons.2 ⟨VoiceLibrary.isLoaded_eq_false_iff.2 ⟨models, state⟩, ih⟩

end

/-! ## Trees with the same files -/

/-- In the second tree every file on the list of the first reads the same. -/
def SameFiles (root : Path) (tree tree' : FileTree) : Prop :=
  ∀ check ∈ checklist tree root, ∀ path ∈ check.file? root, tree'.read path = tree.read path

instance (root : Path) (tree tree' : FileTree) : Decidable (SameFiles root tree tree') :=
  inferInstanceAs (Decidable (∀ check ∈ checklist tree root, ∀ path ∈ check.file? root,
    tree'.read path = tree.read path))

section

variable {S : Type} {devices : DeviceSet} {tree tree' : FileTree} {root : Path}
  {options : CatalogueOptions}

/-- What is read of a library is in its four files. -/
theorem readLibrary_congr {name : String}
    (same : ∀ check ∈ Check.ofLibrary name, ∀ path ∈ check.file? root,
      tree'.read path = tree.read path) :
    (VoiceLibrary.read tree' root name : Except Fault (VoiceLibrary S)) =
      VoiceLibrary.read tree root name := by
  have model : ∀ stage, Check.model name stage ∈ Check.ofLibrary name := by
    intro stage
    cases stage <;> simp [Check.ofLibrary]
  have sameModel : ∀ stage, Stage.readModel stage tree' (root.join name) =
      Stage.readModel stage tree (root.join name) := by
    intro stage
    have sameBytes := same _ (model stage) _ rfl
    rw [Check.modelPath_eq] at sameBytes
    simp only [Stage.readModel, sameBytes]
  have sameSpeakers : tree'.read ((root.join name).join Speaker.fileName) =
      tree.read ((root.join name).join Speaker.fileName) :=
    same (.speakers name) List.mem_cons_self _ rfl
  simp only [VoiceLibrary.read, ModelFiles.read, Speaker.loadAll, sameModel,
    readJson_congr _ sameSpeakers]

namespace SameFiles

variable (h : SameFiles root tree tree')

include h

theorem loadManifest : Manifest.load tree' root = Manifest.load tree root :=
  readJson_congr _ (h .libraryList (by simp [checklist]) _ rfl)

/-- What is read of all voices is in the files on the list. -/
theorem readVoices :
    (Voices.read devices tree' root options : Except Fault (Voices S)) =
      Voices.read devices tree root options := by
  have sameSymbols := loadOrBuiltIn_congr (h .symbols (by simp [checklist]) _ rfl)
  unfold Voices.read Catalogue.read
  rw [sameSymbols, h.loadManifest]
  cases isManifest : Manifest.load tree root with
  | error fault => simp only [bind, Except.bind]
  | ok m =>
    have sameLibraries : m.usable.mapM (VoiceLibrary.read tree' root) =
        (m.usable.mapM (VoiceLibrary.read tree root) : Except Fault (List (VoiceLibrary S))) := by
      refine mapM_congr fun name mem => readLibrary_congr fun check isCheck => h check ?_
      refine List.mem_append_right _ (List.mem_flatMap.2 ⟨name, ?_, isCheck⟩)
      rwa [usableNames_of_load isManifest]
    simp only [except_ok_bind, sameLibraries]

end SameFiles

end

end KanaVoice
