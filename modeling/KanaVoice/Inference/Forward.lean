import KanaVoice.Inference.Backend
import KanaVoice.Sound.Frames
set_option autoImplicit false

/-!
# Running a voice

The calls of the three stages and the checks on what they answer.

| stage    | inputs                                     | output                         |
|----------|--------------------------------------------|--------------------------------|
| variance | `phonemes`, `accents` `[1, n]`, `speaker`  | `pitches`, `durations`         |
| embedder | `phonemes`, `pitches` `[1, n]`, `speaker`  | `feature_embedded` `[1, n, h]` |
| decoder  | `feature_embedded` `[1, frames, h]`        | `wave`                         |

Nothing is run for a request without phonemes, nor the decoder for one without frames.
-/

namespace KanaVoice

/-- The sessions of a loaded voice. -/
structure Sessions (S : Type) where
  variance : S
  embedder : S
  decoder : S
  deriving DecidableEq, Repr

/-- What the variance stage predicts for each phoneme. -/
structure Prediction where
  pitches : List Float32 := []
  durations : List Float32 := []
  deriving DecidableEq

/-- The tensor that says who speaks. -/
def speakerTensor (speaker : Int64) : Except Fault NamedTensor :=
  NamedTensor.int64 "speaker" [1] [speaker.toInt]

/-! ## Variance -/

/-- The values of an output that must have one for each of `n` phonemes. -/
def perPhoneme (name : String) (values : List Float32) (n : Nat) : Except Fault (List Float32) :=
  if values.length ≠ n then .error (.inference .variance (.outputSize name values.length n))
  else .ok values

/-- Looks through the outputs of the variance stage in order.  Integers and other names are
passed over, and of two outputs of one name the later one counts. -/
def collectProsody (n : Nat) (pitches durations : Option (List Float32)) :
    List NamedTensor → Except Fault Prediction
  | [] =>
    match pitches, durations with
    | some pitches, some durations => .ok { pitches, durations }
    | _, _ => .error (.inference .variance .noProsody)
  | t :: rest =>
    match t.floats? with
    | none => collectProsody n pitches durations rest
    | some values =>
      if t.name = "pitches" then do
        let values ← perPhoneme "pitches" values n
        collectProsody n (some values) durations rest
      else if t.name = "durations" then do
        let values ← perPhoneme "durations" values n
        collectProsody n pitches (some values) rest
      else collectProsody n pitches durations rest

/-- The inputs of the variance stage. -/
def varianceInputs (phonemes accents : List Int) (speaker : Int64) :
    Except Fault (List NamedTensor) := do
  let n := phonemes.length
  let phonemes ← NamedTensor.int64 "phonemes" [1, n] phonemes
  let accents ← NamedTensor.int64 "accents" [1, n] accents
  let speaker ← speakerTensor speaker
  .ok [phonemes, accents, speaker]

/-- Predicts the prosody of phonemes with their accent marks. -/
def Backend.variance {S : Type} (b : Backend S) (sessions : Sessions S)
    (phonemes accents : List Int) (speaker : Int64) : Calls S Prediction := do
  let n := phonemes.length
  if n ≠ accents.length then
    throw (.inference .variance (.unalignedAccents n accents.length))
  if n = 0 then return {}
  let inputs ← liftM (varianceInputs phonemes accents speaker)
  let outputs ← b.runSession .variance sessions.variance inputs
  collectProsody n none none outputs

/-! ## Embedder and decoder -/

/-- Runs a session and takes the first output of a name, which must be of single precision. -/
def Backend.runForOutput {S : Type} (b : Backend S) (stage : Stage) (session : S)
    (inputs : List NamedTensor) (name : String) : Calls S (List Nat × List Float32) := do
  let outputs ← b.runSession stage session inputs
  match outputs.find? (·.name = name) with
  | none => throw (.inference stage (.noOutput name))
  | some t =>
    match t.floats? with
    | some values => pure (t.shape, values)
    | none => throw (.inference stage (.notFloats name))

/-- The inputs of the embedder. -/
def embedderInputs (phonemes : List Int) (pitches : List Float32) (speaker : Int64) :
    Except Fault (List NamedTensor) := do
  let n := phonemes.length
  let phonemes ← NamedTensor.int64 "phonemes" [1, n] phonemes
  let pitches ← NamedTensor.float32 "pitches" [1, n] pitches
  let speaker ← speakerTensor speaker
  .ok [phonemes, pitches, speaker]

/-- The feature rows in an output of the embedder.  The last axis gives the columns; their
product with the phonemes, as a machine word, must be the number of values. -/
def featureRows (n : Nat) (shape : List Nat) (values : List Float32) : Except Fault Matrix :=
  let columns := shape.getLastD 0
  if columns = 0 ∨ values.length ≠ n * columns % countBound then
    .error (.inference .embedder (.embeddingShape shape n))
  else
    match shapeFault? [n, columns] values.length, Matrix.ofValues? n columns values with
    | none, some m => .ok m
    | some cause, _ => .error (.shape cause)
    | none, none => .error (.shape .incompatible)

/-- The feature row of each phoneme. -/
def Backend.embed {S : Type} (b : Backend S) (session : S) (phonemes : List Int)
    (pitches : List Float32) (speaker : Int64) : Calls S Matrix := do
  let inputs ← liftM (embedderInputs phonemes pitches speaker)
  let (shape, values) ← b.runForOutput .embedder session inputs "feature_embedded"
  featureRows phonemes.length shape values

/-- The samples of frames; no frames give no samples. -/
def Backend.decode {S : Type} (b : Backend S) (session : S) (frames : Matrix) :
    Calls S (List Float32) := do
  if frames.rows.length = 0 then return []
  let input ← liftM
    (NamedTensor.float32 "feature_embedded" [1, frames.rows.length, frames.columns] frames.values)
  let (_, wave) ← b.runForOutput .decoder session [input] "wave"
  pure wave

/-- The samples of phonemes with their pitches and lengths. -/
def Backend.decodeForward {S : Type} (b : Backend S) (sessions : Sessions S)
    (phonemes : List Int) (pitches durations : List Float32) (speaker : Int64) :
    Calls S (List Float32) := do
  let n := phonemes.length
  if pitches.length ≠ n ∨ durations.length ≠ n then
    throw (.inference .embedder (.unalignedProsody n pitches.length durations.length))
  if n = 0 then return []
  let features ← b.embed sessions.embedder phonemes pitches speaker
  let frames ← liftM (features.regulate durations)
  b.decode sessions.decoder frames

/-- Runs a decoder once on silence, so that an accelerator reserves its memory. -/
def Backend.warmUp {S : Type} (b : Backend S) (decoder : S) : Calls S Unit := do
  let _ ← b.decode decoder (Matrix.zeros warmUpFrames warmUpColumns)

end KanaVoice
