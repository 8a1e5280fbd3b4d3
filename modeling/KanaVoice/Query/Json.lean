import KanaVoice.Json.Reader
import KanaVoice.Kana.Notation
import KanaVoice.Speech.Intonation
set_option autoImplicit false

/-!
# Audio queries

A query is everything that a synthesis needs beside the speaker: the phrases with their prosody, the
scales that shape it, the silence around it, and the form of the sound file.
-/

namespace KanaVoice

/-! ## Queries -/

/-- Formats of sound files. -/
inductive OutputFormat where
  | wav
  deriving DecidableEq, Repr

/-- What is to be spoken, and how. -/
structure AudioQuery where
  phrases : List AccentPhrase
  speedScale : Float32 := 1
  pitchScale : Float32 := 0
  intonationScale : Float32 := 1
  volumeScale : Float32 := 1
  preSilence : Float32 := 0.1
  postSilence : Float32 := 0.1
  rate : UInt32 := 48000
  stereo : Bool := false
  format : OutputFormat := .wav
  kana : String := ""
  deriving DecidableEq

namespace AudioQuery

/-- The query for phrases in their usual shape, with their kana. -/
def ofPhrases (phrases : List AccentPhrase) : AudioQuery := { phrases, kana := Kana.write phrases }

/-- The scales that shape the contour. -/
def scales (q : AudioQuery) : ContourScales where
  pitch := q.pitchScale
  intonation := q.intonationScale
  speed := q.speedScale

end AudioQuery

/-! ## Queries as JSON

The written form of a query, its phrases and their morae.  Every field is written, in a fixed
order.  Reading accepts less: a phrase is no question unless it says so, and a query may leave
out its format and its kana. -/

/-- One more than the largest accent. -/
def accentBound : Nat := UInt64.size

namespace Mora

/-- The names of a mora's fields. -/
def fieldNames : List String :=
  ["text", "consonant", "consonant_length", "vowel", "vowel_length", "pitch"]

/-- The mora as a JSON value. -/
def toJson (m : Mora) : Json :=
  .object [("text", .string m.text), ("consonant", .ofOption .string m.consonant),
    ("consonant_length", .ofOption .ofSingle m.consonantLength), ("vowel", .string m.vowel),
    ("vowel_length", .ofSingle m.vowelLength), ("pitch", .ofSingle m.pitch)]

/-- The mora that a JSON value describes. -/
def ofJson? : Json.Decoder Mora := fun j => do
  let fields ← Json.fields? fieldNames j
  let text ← fields.required "text" Json.text?
  let consonant ← fields.optional "consonant" Json.text?
  let consonantLength ← fields.optional "consonant_length" Json.single?
  let vowel ← fields.required "vowel" Json.text?
  let vowelLength ← fields.required "vowel_length" Json.single?
  let pitch ← fields.required "pitch" Json.single?
  pure { text, consonant, consonantLength, vowel, vowelLength, pitch }

end Mora

namespace AccentPhrase

/-- The names of a phrase's fields. -/
def fieldNames : List String := ["moras", "accent", "pause_mora", "is_interrogative"]

/-- The phrase as a JSON value. -/
def toJson (p : AccentPhrase) : Json :=
  .object [("moras", .array (p.moras.map Mora.toJson)), ("accent", .ofNat p.accent),
    ("pause_mora", .ofOption Mora.toJson p.pause), ("is_interrogative", .bool p.isQuestion)]

/-- The phrase that a JSON value describes. -/
def ofJson? : Json.Decoder AccentPhrase := fun j => do
  let fields ← Json.fields? fieldNames j
  let moras ← fields.required "moras" (Json.list? Mora.ofJson?)
  let accent ← fields.required "accent" (Json.nat? accentBound)
  let pause ← fields.optional "pause_mora" Mora.ofJson?
  let isQuestion ← fields.defaulted "is_interrogative" false Json.bool?
  pure { moras, accent, pause, isQuestion }

end AccentPhrase

namespace OutputFormat

/-- The format as a JSON value. -/
def toJson : OutputFormat → Json
  | .wav => .string "wav"

/-- The format that a JSON value names: by its name, or by an object whose one key is the name
and whose value is null. -/
def ofJson? : Json.Decoder OutputFormat
  | .string name => if name = "wav" then some .wav else none
  | .object [(name, .null)] => if name = "wav" then some .wav else none
  | _ => none

end OutputFormat

namespace AudioQuery

/-- The names of a query's fields. -/
def fieldNames : List String :=
  ["accent_phrases", "speedScale", "pitchScale", "intonationScale", "volumeScale",
   "prePhonemeLength", "postPhonemeLength", "outputSamplingRate", "outputStereo", "outputFormat",
   "kana"]

/-- The query as a JSON value. -/
def toJson (q : AudioQuery) : Json :=
  .object [("accent_phrases", .array (q.phrases.map AccentPhrase.toJson)),
    ("speedScale", .ofSingle q.speedScale), ("pitchScale", .ofSingle q.pitchScale),
    ("intonationScale", .ofSingle q.intonationScale), ("volumeScale", .ofSingle q.volumeScale),
    ("prePhonemeLength", .ofSingle q.preSilence), ("postPhonemeLength", .ofSingle q.postSilence),
    ("outputSamplingRate", .ofNat q.rate.toNat), ("outputStereo", .bool q.stereo),
    ("outputFormat", q.format.toJson), ("kana", .string q.kana)]

/-- The query that a JSON value describes. -/
def ofJson? : Json.Decoder AudioQuery := fun j => do
  let fields ← Json.fields? fieldNames j
  let phrases ← fields.required "accent_phrases" (Json.list? AccentPhrase.ofJson?)
  let speedScale ← fields.required "speedScale" Json.single?
  let pitchScale ← fields.required "pitchScale" Json.single?
  let intonationScale ← fields.required "intonationScale" Json.single?
  let volumeScale ← fields.required "volumeScale" Json.single?
  let preSilence ← fields.required "prePhonemeLength" Json.single?
  let postSilence ← fields.required "postPhonemeLength" Json.single?
  let rate ← fields.required "outputSamplingRate" Json.uint32?
  let stereo ← fields.required "outputStereo" Json.bool?
  let format ← fields.defaulted "outputFormat" .wav OutputFormat.ofJson?
  let kana ← fields.defaulted "kana" "" Json.text?
  pure {
    phrases, speedScale, pitchScale, intonationScale, volumeScale, preSilence, postSilence, rate,
    stereo, format, kana }

/-- The query as JSON text. -/
def json (q : AudioQuery) : String := q.toJson.render

/-- The query that a JSON text describes. -/
def parse? (text : String) : Option AudioQuery := Json.parse text >>= ofJson?

end AudioQuery

end KanaVoice
