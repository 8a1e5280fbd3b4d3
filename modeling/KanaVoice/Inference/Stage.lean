import KanaVoice.Json.Record
set_option autoImplicit false

/-!
# Stages and devices

A voice is three models in a row.  The variance model predicts a pitch and a length for each
phoneme, the embedder turns phonemes and pitches into feature rows, and the decoder turns the
rows of all frames into samples.  A model runs on the processor or on an accelerator, and a process
knows which of them it can use.
-/

namespace KanaVoice

/-! ## Stages -/

/-- One of the three models of a voice. -/
inductive Stage where
  | variance
  | embedder
  | decoder
  deriving DecidableEq, Repr

namespace Stage

/-- The stage's name in messages. -/
def name : Stage → String
  | .variance => "variance"
  | .embedder => "embedder"
  | .decoder => "decoder"

/-- The file that holds the stage's model. -/
def fileName : Stage → String
  | .variance => "variance_model.onnx"
  | .embedder => "embedder_model.onnx"
  | .decoder => "decoder_model.onnx"

end Stage

/-- Samples per second that the decoder produces. -/
def nativeRate : Nat := 48000

/-- Samples that the decoder makes of one frame. -/
def samplesPerFrame : Nat := 256

/-- Columns of the feature rows that a decoder is warmed up with. -/
def warmUpColumns : Nat := 256

/-- Rows of the feature rows that a decoder is warmed up with. -/
def warmUpFrames : Nat := 500

/-- Frames per second. -/
def frameRate : Float32 := Single.ofNat nativeRate / Single.ofNat samplesPerFrame

theorem frameRate_eq : frameRate = 187.5 := by decide +kernel

/-! ## Devices -/

/-- Where a session runs. -/
inductive Device where
  | cpu
  | cuda
  | directMl
  deriving DecidableEq, Repr

namespace Device

/-- The accelerator that is taken when one is asked for.  Which one that is, is settled when the
library is built; this is the usual build. -/
def preferredGpu : Device := .cuda

/-- The device is an accelerator. -/
def isGpu (d : Device) : Bool := d != .cpu

end Device

/-- The devices that can be used. -/
structure DeviceSet where
  cpu : Bool := true
  cuda : Bool := false
  directMl : Bool := false
  deriving DecidableEq, Repr

namespace DeviceSet

/-- The device can be used. -/
def supports (s : DeviceSet) : Device → Bool
  | .cpu => s.cpu
  | .cuda => s.cuda
  | .directMl => s.directMl

/-- The set as a JSON value. -/
def toJson (s : DeviceSet) : Json :=
  .object [("cpu", .bool s.cpu), ("cuda", .bool s.cuda), ("dml", .bool s.directMl)]

/-- The set as JSON text. -/
def json (s : DeviceSet) : String := s.toJson.render

end DeviceSet

/-- How a session is set up.  Zero threads leave their number to the backend. -/
structure SessionOptions where
  device : Device
  threads : Nat
  deriving DecidableEq, Repr

end KanaVoice
