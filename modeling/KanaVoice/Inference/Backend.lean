import KanaVoice.Fault
import KanaVoice.Speech.AccentPhrase
set_option autoImplicit false

/-!
# The outside

Models are run by a backend, and texts are analyzed by an analyzer; both stand outside this
library and may do as they please.  Every call to them is an event, and the events so far are
the history.  A backend is whatever answers a call from the history and the call itself, so it
may remember, fail at any time and recover.  The history grows by one event with each call and
is never changed otherwise.
-/

namespace KanaVoice

/-! ## Named tensors

Models take and return tensors: values in row-major order with the shape they fill and the name
that the model knows them by.  A shape is sound when the product of its non-zero axes fits in a
signed machine word, and the values must then be exactly as many as its cells. -/

/-- The values of a tensor. -/
inductive TensorData where
  | int64 (values : List Int)
  | float32 (values : List Float32)
  deriving DecidableEq

/-- How many values there are. -/
def TensorData.count : TensorData → Nat
  | .int64 values => values.length
  | .float32 values => values.length

/-- The number of cells of a shape. -/
def cells (shape : List Nat) : Nat := shape.foldr (· * ·) 1

/-- The largest number that a signed machine word holds. -/
def maxSize : Nat := UInt64.size / 2 - 1

/-- The fault of filling a shape with so many values, if there is one. -/
def shapeFault? (shape : List Nat) (count : Nat) : Option ShapeFault :=
  if maxSize < cells (shape.filter (· ≠ 0)) then some .overflow
  else if count < cells shape then some .outOfBounds
  else if cells shape < count then some .incompatible
  else none

/-- A tensor with its name. -/
structure NamedTensor where
  name : String
  shape : List Nat
  data : TensorData
  fits : shapeFault? shape data.count = none
  deriving DecidableEq

namespace NamedTensor

/-- The tensor of the given name, shape and data, if the data fill the shape. -/
def ofData (name : String) (shape : List Nat) (data : TensorData) : Except Fault NamedTensor :=
  match h : shapeFault? shape data.count with
  | some cause => .error (.shape cause)
  | none => .ok ⟨name, shape, data, h⟩

/-- A tensor of integers. -/
def int64 (name : String) (shape : List Nat) (values : List Int) : Except Fault NamedTensor :=
  ofData name shape (.int64 values)

/-- A tensor of single-precision numbers. -/
def float32 (name : String) (shape : List Nat) (values : List Float32) : Except Fault NamedTensor :=
  ofData name shape (.float32 values)

/-- The values, if they are single-precision numbers. -/
def floats? (t : NamedTensor) : Option (List Float32) :=
  match t.data with
  | .float32 values => some values
  | .int64 _ => none

end NamedTensor

/-! ## Calls -/

/-- A call to the outside with its answer.  `S` is what a backend calls a session.  A load is
noted with the name of the library that it is for, which the backend is not told. -/
inductive Event (S : Type) where
  | load (library : String) (stage : Stage) (model : ByteArray) (options : SessionOptions)
      (answer : Except String S)
  | run (stage : Stage) (session : S) (inputs : List NamedTensor)
      (answer : Except String (List NamedTensor))
  | analyze (text : String) (answer : Except Fault Utterance)

/-- The calls made so far, the first one in front. -/
abbrev History (S : Type) := List (Event S)

/-- What loads models into sessions and runs them. -/
structure Backend (S : Type) where
  devices : DeviceSet
  load : History S → Stage → ByteArray → SessionOptions → Except String S
  run : History S → S → List NamedTensor → Except String (List NamedTensor)

/-- What makes an utterance of a text. -/
abbrev TextAnalyzer := String → Except Fault Utterance

/-- A computation that may call the outside and may fail; its calls stay in the history either
way. -/
abbrev Calls (S : Type) := ExceptT Fault (StateM (History S))

namespace Backend

variable {S : Type}

/-- Loads a model of a library for a stage. -/
def loadSession (b : Backend S) (library : String) (stage : Stage) (model : ByteArray)
    (options : SessionOptions) : StateM (History S) (Except String S) := fun history =>
  let answer := b.load history stage model options
  (answer, history ++ [.load library stage model options answer])

/-- Runs a stage's session; a failing run is the stage's fault. -/
def runSession (b : Backend S) (stage : Stage) (session : S) (inputs : List NamedTensor) :
    Calls S (List NamedTensor) := fun history =>
  let answer := b.run history session inputs
  (answer.mapError fun text => .inference stage (.reported text),
    history ++ [.run stage session inputs answer])

end Backend

/-- Analyzes a text. -/
def analyzeText {S : Type} (analyzer : TextAnalyzer) (text : String) : Calls S Utterance :=
  fun history =>
    let answer := analyzer text
    (answer, history ++ [.analyze text answer])

end KanaVoice
