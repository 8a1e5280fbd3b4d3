import KanaVoice.Inference.Stage
import KanaVoice.Storage.FileTree
import KanaVoice.Text.Quoted
set_option autoImplicit false

/-!
# Faults

Everything that can go wrong, by its cause, and the one wording of each.  A cause that a text
analyzer or a backend hands in is only known by its text.
-/

namespace KanaVoice

/-! ## Causes -/

/-- Why the libraries or their data cannot be read. -/
inductive ManifestFault where
  | unreadable (path : Path) (cause : IoFault)
  | malformed (path : Path)
  | noSymbols (path : Path)
  | noModel (path : Path) (cause : IoFault)
  | reported (text : String)
  deriving DecidableEq

/-- Why a text is not kana notation. -/
inductive KanaFault where
  | accentBeforeMora
  | secondAccent
  | unknownMora (rest : String)
  | cannotDevoice (kana : String)
  | emptyPhrase
  | noAccent
  | reported (text : String)
  deriving DecidableEq

/-- Why a stage gave no usable result. -/
inductive InferenceFault where
  | unalignedValues (given : Nat) (what : String) (phonemes : Nat)
  | unalignedAccents (phonemes accents : Nat)
  | unalignedProsody (phonemes pitches durations : Nat)
  | noProsody
  | outputSize (name : String) (given expected : Nat)
  | noOutput (name : String)
  | notFloats (name : String)
  | embeddingShape (shape : List Nat) (phonemes : Nat)
  | reported (text : String)
  deriving DecidableEq

/-- Why values do not fill a shape. -/
inductive ShapeFault where
  | incompatible
  | outOfBounds
  | overflow
  deriving DecidableEq, Repr

/-- Which list a symbol was looked for in. -/
inductive SymbolKind where
  | phoneme
  | accent
  deriving DecidableEq, Repr

/-- What can go wrong. -/
inductive Fault where
  | notInitialized
  | manifest (cause : ManifestFault)
  | modelFormat (path : Path) (reason : String)
  | device (text : String)
  | unknownSpeaker (speaker : Int64)
  | modelNotLoaded (speaker : Int64)
  | inference (stage : Stage) (cause : InferenceFault)
  | unknownSymbol (kind : SymbolKind) (symbol : String)
  | kana (text : String) (cause : KanaFault)
  | outOfRange (what : String) (value : Float32)
  | wav (cause : IoFault)
  | io (cause : IoFault)
  | shape (cause : ShapeFault)
  deriving DecidableEq

/-! ## Wording -/

/-- What stands for the position and the kind of a JSON fault. -/
def malformedJson : String := "<json error>"

/-- The text of a fault in the libraries' data. -/
def ManifestFault.message : ManifestFault → String
  | .unreadable path cause => path.text ++ ": " ++ cause.message
  | .malformed path => path.text ++ ": " ++ malformedJson
  | .noSymbols path => path.text ++ ": symbol lists must not be empty"
  | .noModel path cause => "Unable to open model file " ++ path.text ++ ": " ++ cause.message
  | .reported text => text

/-- The text of a fault in kana notation. -/
def KanaFault.message : KanaFault → String
  | .accentBeforeMora => "accent mark before the first mora"
  | .secondAccent => "more than one accent mark in a phrase"
  | .unknownMora rest => "unknown mora at " ++ Text.quote rest
  | .cannotDevoice kana => kana ++ " cannot be unvoiced"
  | .emptyPhrase => "empty accent phrase"
  | .noAccent => "accent mark missing"
  | .reported text => text

/-- Numbers between brackets. -/
def listText (ns : List Nat) : String :=
  "[" ++ ", ".intercalate (ns.map toString) ++ "]"

/-- The text of a stage's fault. -/
def InferenceFault.message : InferenceFault → String
  | .unalignedValues given what phonemes => s!"{given} {what} for {phonemes} phonemes"
  | .unalignedAccents phonemes accents => s!"{phonemes} phonemes but {accents} accents"
  | .unalignedProsody phonemes pitches durations =>
    s!"{phonemes} phonemes but {pitches} pitches and {durations} durations"
  | .noProsody => "missing 'pitches' or 'durations' output"
  | .outputSize name given expected => s!"output '{name}' has {given} values, expected {expected}"
  | .noOutput name => s!"missing output tensor '{name}'"
  | .notFloats name => s!"output tensor '{name}' is not float32"
  | .embeddingShape shape phonemes =>
    "feature_embedded has shape " ++ listText shape ++ s!", expected [1, {phonemes}, H]"
  | .reported text => text

/-- The text of a fault in a shape. -/
def ShapeFault.message : ShapeFault → String
  | .incompatible => "ShapeError/IncompatibleShape: incompatible shapes"
  | .outOfBounds => "ShapeError/OutOfBounds: out of bounds indexing"
  | .overflow => "ShapeError/Overflow: arithmetic overflow"

/-- The kind's name in messages. -/
def SymbolKind.name : SymbolKind → String
  | .phoneme => "phoneme"
  | .accent => "accent"

/-- The text of a fault. -/
def Fault.message : Fault → String
  | .notInitialized => "Call initialize() first."
  | .manifest cause => "Unable to read library manifest or metas: " ++ cause.message
  | .modelFormat path reason => "Invalid model file " ++ path.text ++ ": " ++ reason
  | .device text => text
  | .unknownSpeaker speaker => s!"Unknown style ID: {speaker.toInt}"
  | .modelNotLoaded speaker =>
    s!"Model for style ID {speaker.toInt} is not loaded. Call load_model() first."
  | .inference stage cause =>
    s!"ONNX raise exception in {stage.name} stage: " ++ cause.message
  | .unknownSymbol kind symbol => s!"Unknown {kind.name} symbol: " ++ Text.quote symbol
  | .kana text cause => "Invalid kana " ++ Text.quote text ++ ": " ++ cause.message
  | .outOfRange what value => s!"{what} {Single.display value} is out of range"
  | .wav cause => "WAV encoding failed: " ++ cause.message
  | .io cause => "I/O error: " ++ cause.message
  | .shape cause => "Array shape error: " ++ cause.message

end KanaVoice
