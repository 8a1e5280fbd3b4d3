import KanaVoice.Single.Basic
import KanaVoice.Speech.AccentPhrase
set_option autoImplicit false

/-!
# Intonation

What becomes of predicted pitches and lengths before they are spoken: questions end in a rise, and
the scales of a query shape the contour.
-/

namespace KanaVoice

/-! ## Upspeak

A question whose last mora is voiced ends in a rise: one more mora with the same vowel, 0.15 seconds
long, 0.3 above the last pitch but never above 6.5. -/

/-- Length of the rise in seconds. -/
def upspeakLength : Float32 := 0.15

/-- How far the rise lies above the last pitch. -/
def upspeakStep : Float32 := 0.3

/-- The highest pitch of a rise. -/
def upspeakCeiling : Float32 := 6.5

/-- The pitch of the rise after a pitch; a NaN gives the ceiling. -/
def upspeakPitch (pitch : Float32) : Float32 :=
  if pitch + upspeakStep < upspeakCeiling then pitch + upspeakStep else upspeakCeiling

/-- The rise after a mora. -/
def Mora.upspeak (last : Mora) : Mora where
  text := Kana.ofPhonemes last.vowel
  consonant := none
  consonantLength := none
  vowel := last.vowel
  vowelLength := upspeakLength
  pitch := upspeakPitch last.pitch

/-- The rise that the phrase ends in, if it is a question whose last mora has a pitch. -/
def AccentPhrase.upspeak? (p : AccentPhrase) : Option Mora := do
  let last ← p.moras.getLast?
  if p.isQuestion && last.pitch != 0 then some last.upspeak else none

/-- The phrase with its rise, if it has one. -/
def AccentPhrase.withUpspeak (p : AccentPhrase) : AccentPhrase :=
  { p with moras := p.moras ++ p.upspeak?.toList }

/-- The phrases with their rises. -/
def withUpspeak (phrases : List AccentPhrase) : List AccentPhrase :=
  phrases.map AccentPhrase.withUpspeak

/-! ## Contours

A contour is a pitch and a length for each phoneme position, as the embedder and the decoder
take them.  Three scales shape it: pitches are multiplied by a power of two, then the voiced
ones are spread around their mean, and lengths are divided by the speed.  A speed that is not
positive counts as one.  Spread one leaves every pitch as it is, and so does a contour without
voiced pitches, which has no mean. -/

/-- The scales of a query that shape its contour. -/
structure ContourScales where
  pitch : Float32 := 0
  intonation : Float32 := 1
  speed : Float32 := 1
  deriving DecidableEq

/-- Pitches and lengths, position by position. -/
structure Contour where
  pitches : List Float32
  durations : List Float32
  deriving DecidableEq

namespace ContourScales

/-- The factor that pitches are multiplied by. -/
def shift (s : ContourScales) : Float32 := Single.exp2 s.pitch

/-- The number that lengths are divided by. -/
def divisor (s : ContourScales) : Float32 := if 0 < s.speed then s.speed else 1

end ContourScales

namespace Mora

/-- The pitch of each of the mora's phonemes: a consonant shares that of its vowel. -/
def shiftedPitches (shift : Float32) (m : Mora) : List Float32 :=
  (m.phonemes.map fun _ => m.pitch * shift)

/-- The length of each of the mora's phonemes; a consonant without a length has none to give. -/
def scaledLengths (divisor : Float32) (m : Mora) : List Float32 :=
  (if m.consonant.isSome then [m.consonantLength.getD 0 / divisor] else []) ++
  [m.vowelLength / divisor]

end Mora

/-- A pitch that takes part in the mean. -/
def isVoicedPitch (p : Float32) : Bool := 0 < p

/-- The mean of the voiced pitches, summed from the left; NaN when there are none. -/
def meanPitch (pitches : List Float32) : Float32 :=
  let voiced := pitches.filter isVoicedPitch
  voiced.foldl (· + ·) 0 / Single.ofNat voiced.length

/-- The voiced pitches moved away from their mean, or towards it. -/
def spreadPitches (scale : Float32) (pitches : List Float32) : List Float32 :=
  let mean := meanPitch pitches
  if !mean.isNaN && scale != 1 then
    pitches.map fun p => if isVoicedPitch p then (p - mean) * scale + mean else p
  else pitches

/-- The contour of morae under scales. -/
def contour (moras : List Mora) (scales : ContourScales) : Contour where
  pitches := spreadPitches scales.intonation (moras.flatMap (Mora.shiftedPitches scales.shift))
  durations := moras.flatMap (Mora.scaledLengths scales.divisor)

end KanaVoice
