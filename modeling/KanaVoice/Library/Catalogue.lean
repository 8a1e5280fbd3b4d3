import KanaVoice.Inference.Forward
import KanaVoice.Library.Lists
set_option autoImplicit false

/-!
# Voice libraries

Everything about the usable libraries under a root is read before anything is loaded, and what is
read never changes afterwards: only the load state of a library does, from unloaded to loaded.
-/

namespace KanaVoice

/-! ## Libraries

A library is a folder with the list of its speakers and three model files.  Its models are read
at once but only loaded into sessions when they are needed, all three together: a load that
fails on the way leaves the library as it was. -/

/-- The bytes of a library's model files. -/
structure ModelFiles where
  variance : ByteArray
  embedder : ByteArray
  decoder : ByteArray

/-- Whether the models of a library have been loaded. -/
inductive LoadState (S : Type) where
  | unloaded (models : ModelFiles)
  | loaded (sessions : Sessions S)

/-- A voice library. -/
structure VoiceLibrary (S : Type) where
  name : String
  folder : Path
  speakers : List Speaker
  state : LoadState S

/-- Where and how the models of a set of libraries are loaded. -/
structure LoadPlan where
  decoderDevice : Device
  threads : Nat
  deriving DecidableEq, Repr

namespace LoadPlan

/-- The options of a stage: only the decoder may leave the processor. -/
def options (plan : LoadPlan) : Stage → SessionOptions
  | .decoder => ⟨plan.decoderDevice, plan.threads⟩
  | _ => ⟨.cpu, plan.threads⟩

end LoadPlan

/-- The path of a stage's model file in a folder. -/
def Stage.path (stage : Stage) (folder : Path) : Path := folder.join stage.fileName

/-- The bytes of a stage's model file in a folder. -/
def Stage.readModel (stage : Stage) (tree : FileTree) (folder : Path) : Except Fault ByteArray :=
  let path := stage.path folder
  (tree.read path).mapError fun cause => .manifest (.noModel path cause)

/-- The model files in a folder. -/
def ModelFiles.read (tree : FileTree) (folder : Path) : Except Fault ModelFiles := do
  let variance ← Stage.readModel .variance tree folder
  let embedder ← Stage.readModel .embedder tree folder
  let decoder ← Stage.readModel .decoder tree folder
  .ok { variance, embedder, decoder }

namespace VoiceLibrary

variable {S : Type}

/-- The library of a name under a root, not loaded yet. -/
def read (tree : FileTree) (root : Path) (name : String) : Except Fault (VoiceLibrary S) := do
  let folder := root.join name
  let speakers ← Speaker.loadAll tree folder
  let models ← ModelFiles.read tree folder
  .ok { name, folder, speakers, state := .unloaded models }

/-- The library has a style of this number. -/
def serves (l : VoiceLibrary S) (speaker : Int64) : Bool := (styleIds l.speakers).contains speaker

/-- The library's models have been loaded. -/
def isLoaded (l : VoiceLibrary S) : Bool :=
  match l.state with
  | .loaded _ => true
  | .unloaded _ => false

/-- Loads the model of one stage; a failure names the stage's file. -/
def loadStage (b : Backend S) (plan : LoadPlan) (l : VoiceLibrary S) (stage : Stage)
    (model : ByteArray) : Calls S S := fun history =>
  let (answer, history) := b.loadSession l.name stage model (plan.options stage) history
  (answer.mapError (.modelFormat (stage.path l.folder)), history)

/-- Warms up the decoder if it is on an accelerator.  Whether that works out does not matter. -/
def warmUp (b : Backend S) (plan : LoadPlan) (decoder : S) : Calls S Unit := fun history =>
  if plan.decoderDevice.isGpu then (.ok (), (b.warmUp decoder history).2) else (.ok (), history)

/-- The library with its models loaded; one that is loaded stays as it is. -/
def load (b : Backend S) (plan : LoadPlan) (l : VoiceLibrary S) : Calls S (VoiceLibrary S) := do
  match l.state with
  | .loaded _ => pure l
  | .unloaded models =>
    let variance ← l.loadStage b plan .variance models.variance
    let embedder ← l.loadStage b plan .embedder models.embedder
    let decoder ← l.loadStage b plan .decoder models.decoder
    warmUp b plan decoder
    pure { l with state := .loaded { variance, embedder, decoder } }

end VoiceLibrary

/-! ## Catalogues

The usable libraries under a root, in ascending order of their names.  A style that several
libraries have belongs to the last of them. -/

/-- How a catalogue is opened. -/
structure CatalogueOptions where
  useGpu : Bool := false
  threads : Nat := 0
  loadAll : Bool := false
  deriving DecidableEq, Repr

/-- The usable libraries under a root. -/
structure Catalogue (S : Type) where
  libraries : List (VoiceLibrary S)
  plan : LoadPlan

/-- The device of the decoders. -/
def decoderDevice (devices : DeviceSet) (useGpu : Bool) : Except Fault Device :=
  if !useGpu then .ok .cpu
  else if devices.supports Device.preferredGpu then .ok Device.preferredGpu
  else .error (.device "This library is CPU version. GPU is not supported.")

namespace Catalogue

variable {S : Type}

/-- The catalogue under a root before anything is loaded. -/
def read (devices : DeviceSet) (tree : FileTree) (root : Path) (options : CatalogueOptions) :
    Except Fault (Catalogue S) := do
  let device ← decoderDevice devices options.useGpu
  let manifest ← Manifest.load tree root
  let libraries ← manifest.usable.mapM (VoiceLibrary.read tree root)
  .ok { libraries, plan := ⟨device, options.threads⟩ }

/-- The catalogue with every library loaded, in order up to the first failure. -/
def loadAll (b : Backend S) (c : Catalogue S) : Calls S (Catalogue S) := do
  let libraries ← c.libraries.mapM (VoiceLibrary.load b c.plan)
  pure { c with libraries }

/-- The catalogue under a root, loaded if the options ask for it. -/
def openAt (b : Backend S) (tree : FileTree) (root : Path) (options : CatalogueOptions) :
    Calls S (Catalogue S) := do
  let c ← liftM (read b.devices tree root options)
  if options.loadAll then c.loadAll b else pure c

/-- The library that a speaker belongs to: the last one that has it. -/
def library? (c : Catalogue S) (speaker : Int64) : Option (VoiceLibrary S) :=
  c.libraries.findRev? (·.serves speaker)

/-- The library that a speaker must belong to. -/
def library (c : Catalogue S) (speaker : Int64) : Except Fault (VoiceLibrary S) :=
  match c.library? speaker with
  | some l => .ok l
  | none => .error (.unknownSpeaker speaker)

/-- The speaker belongs to a loaded library. -/
def isLoaded (c : Catalogue S) (speaker : Int64) : Bool :=
  match c.library? speaker with
  | some l => l.isLoaded
  | none => false

/-- The catalogue with a library put in the place of the one of its name. -/
def replace (c : Catalogue S) (l : VoiceLibrary S) : Catalogue S :=
  { c with libraries := c.libraries.map fun other => if other.name = l.name then l else other }

/-- The catalogue with a speaker's library loaded. -/
def load (b : Backend S) (c : Catalogue S) (speaker : Int64) : Calls S (Catalogue S) := do
  let l ← liftM (c.library speaker)
  let l ← l.load b c.plan
  pure (c.replace l)

/-- The sessions of a speaker's library, which must be loaded. -/
def sessions (c : Catalogue S) (speaker : Int64) : Except Fault (Sessions S) := do
  match (← c.library speaker).state with
  | .loaded sessions => .ok sessions
  | .unloaded _ => .error (.modelNotLoaded speaker)

/-- All speakers, library by library. -/
def speakers (c : Catalogue S) : List Speaker := c.libraries.flatMap VoiceLibrary.speakers

/-- All speakers as JSON text. -/
def speakersJson (c : Catalogue S) : String := Speaker.listJson c.speakers

end Catalogue

end KanaVoice
