import KanaVoice.Library.Catalogue
import KanaVoice.Query.Json
import KanaVoice.Sound.Wav
import KanaVoice.Speech.Prosody
import KanaVoice.Symbol.Table
set_option autoImplicit false

/-!
# The engine

An engine has its voices once it is started, and the history of its calls to the outside.  Its
operations fail without voices before they look at anything else, except that recording kana
notation reads the notation first.  Operations that need a speaker's models load them on the
way; the two forward calls do not.
-/

namespace KanaVoice

/-! ## Voices at work

A catalogue with its symbol table is all that phrases need to get their prosody and to be
spoken.  The lengths come first, and the pitches that were predicted with them are placed
afterwards, so one run of the variance model serves both.  Nothing here loads a model. -/

/-- A catalogue and the symbols that its models know. -/
structure Voices (S : Type) where
  catalogue : Catalogue S
  symbols : SymbolTable

namespace Voices

variable {S : Type}

/-- The prediction of the variance model for phrases. -/
def predict (b : Backend S) (v : Voices S) (phrases : List AccentPhrase) (speaker : Int64) :
    Calls S Prediction := do
  let encoding ← liftM (encode v.symbols phrases)
  let sessions ← liftM (v.catalogue.sessions speaker)
  b.variance sessions encoding.phonemeIds encoding.accentIds speaker

/-- The phrases with their lengths, and the pitches that were predicted with these. -/
def predictLengths (b : Backend S) (v : Voices S) (phrases : List AccentPhrase) (speaker : Int64) :
    Calls S (List AccentPhrase × List Float32) := do
  let prediction ← v.predict b phrases speaker
  let phrases ← liftM (withLengths phrases prediction.durations)
  pure (phrases, prediction.pitches)

/-- The phrases with their pitches: the known ones, or else those that the model predicts. -/
def predictPitches (b : Backend S) (v : Voices S) (phrases : List AccentPhrase) (speaker : Int64)
    (known : Option (List Float32)) : Calls S (List AccentPhrase) := do
  match known with
  | some pitches => liftM (withPitches phrases pitches)
  | none =>
    let prediction ← v.predict b phrases speaker
    liftM (withPitches phrases prediction.pitches)

/-- The phrases with their lengths and pitches, from one prediction. -/
def predictProsody (b : Backend S) (v : Voices S) (phrases : List AccentPhrase) (speaker : Int64) :
    Calls S (List AccentPhrase) := do
  let (phrases, pitches) ← v.predictLengths b phrases speaker
  v.predictPitches b phrases speaker (some pitches)

/-- The samples of a query at the native rate, with its silence. -/
def speak (b : Backend S) (v : Voices S) (query : AudioQuery) (speaker : Int64) (upspeak : Bool) :
    Calls S (List Float32) := do
  let phrases := if upspeak then withUpspeak query.phrases else query.phrases
  let encoding ← liftM (encode v.symbols phrases)
  let shape := contour encoding.moras query.scales
  let sessions ← liftM (v.catalogue.sessions speaker)
  let wave ← b.decodeForward sessions encoding.phonemeIds shape.pitches shape.durations speaker
  liftM (padSilence wave query.preSilence query.postSilence)

end Voices

/-! ## Engines -/

/-- An engine with its history. -/
structure Engine (S : Type) where
  voices : Option (Voices S) := none
  history : History S := []

/-- Who is to speak, and whether questions rise at their end. -/
structure SpeechOptions where
  speaker : Int64 := 0
  upspeak : Bool := true
  deriving DecidableEq, Repr

namespace Engine

/-- An operation on an engine.  What it has done to the engine stays done when it fails. -/
abbrev Op (S : Type) := ExceptT Fault (StateM (Engine S))

variable {S : Type}

/-- Makes calls on behalf of the engine. -/
def perform {α : Type} (calls : Calls S α) : Op S α := fun e =>
  let (answer, history) := calls e.history
  (answer, { e with history })

/-! ## Life cycle -/

/-- The engine without its voices. -/
def stop (e : Engine S) : Engine S := { e with voices := none }

/-- The engine has its voices. -/
def isStarted (e : Engine S) : Bool := e.voices.isSome

/-- Gives the engine the voices under a root, in place of those it had; if that fails it has
none. -/
def start (b : Backend S) (tree : FileTree) (root : Path) (options : CatalogueOptions) :
    Op S Unit := do
  modify stop
  let symbols ← liftM (SymbolTable.loadOrBuiltIn tree root)
  let catalogue ← perform (Catalogue.openAt b tree root options)
  modify fun e => { e with voices := some { catalogue, symbols } }

/-- The engine's voices. -/
def requireVoices : Op S (Voices S) := do
  match (← get).voices with
  | some v => pure v
  | none => throw .notInitialized

/-- The engine's voices after the speaker's models have been loaded. -/
def requireLoaded (b : Backend S) (speaker : Int64) : Op S (Voices S) := do
  let v ← requireVoices
  let catalogue ← perform (v.catalogue.load b speaker)
  let v := { v with catalogue }
  modify fun e => { e with voices := some v }
  pure v

/-- Loads the models of a speaker. -/
def loadModel (b : Backend S) (speaker : Int64) : Op S Unit := do
  let _ ← requireLoaded b speaker

/-- The models of a speaker are loaded. -/
def isLoaded (e : Engine S) (speaker : Int64) : Bool :=
  match e.voices with
  | some v => v.catalogue.isLoaded speaker
  | none => false

/-- All speakers as JSON text. -/
def speakersJson : Op S String := do
  pure (← requireVoices).catalogue.speakersJson

/-! ## Forward calls -/

/-- Predicts the prosody of phonemes; the speaker's models must be loaded. -/
def varianceForward (b : Backend S) (phonemes accents : List Int) (speaker : Int64) :
    Op S Prediction := do
  let v ← requireVoices
  let sessions ← liftM (v.catalogue.sessions speaker)
  perform (b.variance sessions phonemes accents speaker)

/-- Speaks phonemes; the speaker's models must be loaded. -/
def decodeForward (b : Backend S) (phonemes : List Int) (pitches durations : List Float32)
    (speaker : Int64) : Op S (List Float32) := do
  let v ← requireVoices
  let sessions ← liftM (v.catalogue.sessions speaker)
  perform (b.decodeForward sessions phonemes pitches durations speaker)

/-! ## Prosody -/

/-- Gives phrases their lengths and pitches. -/
def replaceProsody (b : Backend S) (phrases : List AccentPhrase) (speaker : Int64) :
    Op S (List AccentPhrase) := do
  let v ← requireLoaded b speaker
  perform (v.predictProsody b phrases speaker)

/-- Gives phrases their lengths. -/
def replaceLengths (b : Backend S) (phrases : List AccentPhrase) (speaker : Int64) :
    Op S (List AccentPhrase) := do
  let v ← requireLoaded b speaker
  let (phrases, _) ← perform (v.predictLengths b phrases speaker)
  pure phrases

/-- Gives phrases their pitches. -/
def replacePitches (b : Backend S) (phrases : List AccentPhrase) (speaker : Int64) :
    Op S (List AccentPhrase) := do
  let v ← requireLoaded b speaker
  perform (v.predictPitches b phrases speaker none)

/-- The phrases of a text with their prosody; neither an empty text nor one without phrases asks
for any model. -/
def accentPhrases (b : Backend S) (analyzer : TextAnalyzer) (text : String) (speaker : Int64) :
    Op S (List AccentPhrase) := do
  let _ ← requireVoices
  if text = "" then return []
  let utterance ← perform (analyzeText analyzer text)
  let phrases := utterance.toAccentPhrases
  if phrases.isEmpty then return []
  replaceProsody b phrases speaker

/-! ## Speech -/

/-- The samples of a query. -/
def synthesize (b : Backend S) (query : AudioQuery) (speaker : Int64) (upspeak : Bool) :
    Op S (List Float32) := do
  let v ← requireLoaded b speaker
  perform (v.speak b query speaker upspeak)

/-- The sound file of a query. -/
def synthesizeWav (b : Backend S) (query : AudioQuery) (speaker : Int64) (upspeak : Bool) :
    Op S Wav := do
  let wave ← synthesize b query speaker upspeak
  pure (.ofWave wave query.volumeScale query.rate query.stereo)

/-- The sound file of kana notation. -/
def kanaToWav (b : Backend S) (kana : String) (speaker : Int64) : Op S Wav := do
  let _ ← requireVoices
  let phrases ← liftM (Kana.read kana)
  let phrases ← replaceProsody b phrases speaker
  synthesizeWav b (.ofPhrases phrases) speaker true

/-- The sound file of a text. -/
def textToWav (b : Backend S) (analyzer : TextAnalyzer) (text : String) (speaker : Int64) :
    Op S Wav := do
  let phrases ← accentPhrases b analyzer text speaker
  synthesizeWav b (.ofPhrases phrases) speaker true

/-- The recording of kana notation. -/
def record (b : Backend S) (kana : String) (options : SpeechOptions) : Op S Recording := do
  let phrases ← liftM (Kana.read kana)
  let phrases ← replaceProsody b phrases options.speaker
  let samples ← synthesize b (.ofPhrases phrases) options.speaker options.upspeak
  pure { samples, rate := .ofNat nativeRate }

/-- Why a recording did not get into a file. -/
inductive RecordFault where
  | speech (cause : Fault)
  | file (cause : IoFault)
  deriving DecidableEq

/-- The text of the fault. -/
def RecordFault.message : RecordFault → String
  | .speech cause => cause.message
  | .file cause => cause.message

/-- The tree with the recording of kana notation written to a file. -/
def recordToFile (b : Backend S) (tree : FileTree) (path : Path) (kana : String)
    (options : SpeechOptions) : ExceptT RecordFault (StateM (Engine S)) FileTree := fun e =>
  match record b kana options e with
  | (.ok recording, e) => ((recording.write tree path).mapError .file, e)
  | (.error cause, e) => (.error (.speech cause), e)

end Engine

end KanaVoice
