import KanaVoice.Fault
import KanaVoice.Speech.AccentPhrase
set_option autoImplicit false

/-!
# Placing predicted values

A model answers with one value for each phoneme position.  Placing them walks over the morae and
takes from the front of the values what each mora needs: a length for each phoneme, and the
pitch at the vowel, where a voiceless mora keeps the pitch zero.  A pause takes one value,
whatever its consonant.  The number of values must be the number of phonemes.
-/

namespace KanaVoice

/-- Gives each element its share from the front of the values; none when they run out. -/
def dealOut {α β : Type} (place : α → List β → Option (α × List β)) :
    List α → List β → Option (List α × List β)
  | [], values => some ([], values)
  | a :: rest, values => do
    let (a, values) ← place a values
    let (rest, values) ← dealOut place rest values
    some (a :: rest, values)

namespace Mora

/-- Takes the lengths of the mora's phonemes. -/
def placeLengths (m : Mora) (values : List Float32) : Option (Mora × List Float32) :=
  match m.consonant, values with
  | some _, c :: v :: rest => some ({ m with consonantLength := some c, vowelLength := v }, rest)
  | none, v :: rest => some ({ m with vowelLength := v }, rest)
  | _, _ => none

/-- Takes the pitches of the mora's phonemes and keeps that of the vowel. -/
def placePitch (m : Mora) (values : List Float32) : Option (Mora × List Float32) :=
  let keep (v : Float32) : Mora := { m with pitch := if isVoiceless m.vowel then 0 else v }
  match m.consonant, values with
  | some _, _ :: v :: rest => some (keep v, rest)
  | none, v :: rest => some (keep v, rest)
  | _, _ => none

/-- Takes the length of a pause. -/
def placePauseLength (m : Mora) : List Float32 → Option (Mora × List Float32)
  | v :: rest => some ({ m with vowelLength := v }, rest)
  | [] => none

/-- Takes the pitch of a pause, which is zero whatever was predicted. -/
def placePausePitch (m : Mora) : List Float32 → Option (Mora × List Float32)
  | _ :: rest => some ({ m with pitch := 0 }, rest)
  | [] => none

end Mora

namespace AccentPhrase

/-- Gives the morae and then the pause of a phrase their values. -/
def place (mora pause : Mora → List Float32 → Option (Mora × List Float32)) (p : AccentPhrase)
    (values : List Float32) : Option (AccentPhrase × List Float32) := do
  let (moras, values) ← dealOut mora p.moras values
  match p.pause with
  | none => some ({ p with moras }, values)
  | some m =>
    let (m, values) ← pause m values
    some ({ p with moras, pause := some m }, values)

/-- Takes the lengths of the phrase's phonemes. -/
def placeLengths : AccentPhrase → List Float32 → Option (AccentPhrase × List Float32) :=
  place Mora.placeLengths Mora.placePauseLength

/-- Takes the pitches of the phrase's phonemes. -/
def placePitches : AccentPhrase → List Float32 → Option (AccentPhrase × List Float32) :=
  place Mora.placePitch Mora.placePausePitch

end AccentPhrase

/-- Places values on the phonemes of all phrases, if there are as many values as phonemes. -/
def placeValues (what : String)
    (place : AccentPhrase → List Float32 → Option (AccentPhrase × List Float32))
    (phrases : List AccentPhrase) (values : List Float32) : Except Fault (List AccentPhrase) :=
  let unaligned : Fault :=
    .inference .variance (.unalignedValues values.length what (phonemeTotal phrases))
  if values.length ≠ phonemeTotal phrases then .error unaligned
  else
    match dealOut place phrases values with
    | some (phrases, _) => .ok phrases
    | none => .error unaligned

/-- The phrases with the given lengths on their phonemes. -/
def withLengths : List AccentPhrase → List Float32 → Except Fault (List AccentPhrase) :=
  placeValues "durations" AccentPhrase.placeLengths

/-- The phrases with the given pitches on their voiced morae. -/
def withPitches : List AccentPhrase → List Float32 → Except Fault (List AccentPhrase) :=
  placeValues "pitches" AccentPhrase.placePitches

end KanaVoice
