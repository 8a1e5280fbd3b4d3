import KanaVoice.Kana.Table
set_option autoImplicit false

/-!
# Accent phrases

Speech is made of accent phrases: runs of morae with one accent each.  They come from an analyzed
text or from notation, and the models read them as two streams of symbols.
-/

namespace KanaVoice

/-! ## Morae

A mora is the beat of spoken Japanese: a vowel, a moraic nasal (`N`), a closure (`cl`) or a
pause (`pau`), with at most one consonant in front.  Prosody gives each phoneme a length in
seconds and the mora a pitch; a pitch of zero means that the mora is not voiced. -/

/-- One mora with its prosody. -/
structure Mora where
  text : String
  consonant : Option String
  consonantLength : Option Float32
  vowel : String
  vowelLength : Float32
  pitch : Float32
  deriving DecidableEq

namespace Mora

/-- A mora without prosody yet: its lengths and its pitch are zero. -/
def plain (text : String) (consonant : Option String) (vowel : String) : Mora where
  text := text
  consonant := consonant
  consonantLength := consonant.map fun _ => 0
  vowel := vowel
  vowelLength := 0
  pitch := 0

/-- The pause between two phrases. -/
def pause : Mora := plain "、" none "pau"

/-- The mora's phonemes, consonant first. -/
def phonemes (m : Mora) : List String := m.consonant.toList ++ [m.vowel]

/-- How many phonemes the mora has. -/
def phonemeCount (m : Mora) : Nat := if m.consonant.isSome then 2 else 1

theorem length_phonemes (m : Mora) : m.phonemes.length = m.phonemeCount := by
  cases h : m.consonant <;> simp [phonemes, phonemeCount, h]

end Mora

/-- Vowels that are spoken without voice: devoiced vowels, the closure and the pause. -/
def voicelessVowels : List String := ["A", "I", "U", "E", "O", "cl", "pau"]

/-- The vowel is spoken without voice. -/
def isVoiceless (vowel : String) : Bool := voicelessVowels.contains vowel

/-! ## Phrases

An accent phrase is a run of morae with one accent: the pitch falls after the mora that `accent`
counts to, starting from one.  A pause may follow it, and it may be a question. -/

/-- A run of morae with one accent. -/
structure AccentPhrase where
  moras : List Mora
  accent : Nat
  pause : Option Mora := none
  isQuestion : Bool := false
  deriving DecidableEq

namespace AccentPhrase

/-- The phrase's morae followed by its pause. -/
def flatten (p : AccentPhrase) : List Mora := p.moras ++ p.pause.toList

/-- How many phonemes the phrase has, its pause counted in. -/
def phonemeCount (p : AccentPhrase) : Nat := (p.flatten.map Mora.phonemeCount).foldr (· + ·) 0

end AccentPhrase

/-- The morae of all phrases in order, each phrase followed by its pause. -/
def flattenMoras (phrases : List AccentPhrase) : List Mora :=
  phrases.flatMap AccentPhrase.flatten

/-- How many phonemes the phrases have, pauses counted in. -/
def phonemeTotal (phrases : List AccentPhrase) : Nat :=
  (phrases.map AccentPhrase.phonemeCount).foldr (· + ·) 0

/-! ## Symbol streams

The models read phrases as two streams of symbols of one length: the phonemes, and for each
phoneme a mark that says where it stands in the accent of its phrase.  A pause counts as one
phoneme. -/

/-- The phonemes of morae in order. -/
def phonemeSymbols (moras : List Mora) : List String := moras.flatMap Mora.phonemes

/-- Where a phoneme stands in the accent of its phrase. -/
inductive AccentMark where
  | hold
  | rise
  | fall
  | question
  | finish
  deriving DecidableEq, Repr

namespace AccentMark

/-- The symbol that the models know the mark by. -/
def symbol : AccentMark → String
  | .hold => "_"
  | .rise => "["
  | .fall => "]"
  | .question => "?"
  | .finish => "#"

end AccentMark

namespace AccentPhrase

/-- The mark of the vowel of the mora at `index`: the pitch falls behind the accented mora
unless it is the last one, and rises at the first. -/
def vowelMark (p : AccentPhrase) (index : Nat) : AccentMark :=
  if index + 1 = p.accent ∧ p.moras.length ≠ p.accent then .fall
  else if index = 0 then .rise
  else .hold

/-- The marks of the mora at `index`, one for each of its phonemes. -/
def moraMarks (p : AccentPhrase) (m : Mora) (index : Nat) : List AccentMark :=
  (if m.consonant.isSome then [.hold] else []) ++ [p.vowelMark index]

/-- The marks of the phrase before its end is marked. -/
def openMarks (p : AccentPhrase) : List AccentMark :=
  (p.moras.mapIdx fun index m => p.moraMarks m index).flatten ++
  (if p.pause.isSome then [.hold] else [])

/-- The mark at the end of the phrase. -/
def endMark (p : AccentPhrase) : AccentMark := if p.isQuestion then .question else .finish

/-- The marks of the phrase: the last one, if there is any, is that of the end. -/
def marks (p : AccentPhrase) : List AccentMark :=
  if p.openMarks.isEmpty then [] else p.openMarks.dropLast ++ [p.endMark]

theorem length_marks (p : AccentPhrase) : p.marks.length = p.openMarks.length := by
  unfold marks
  split
  · simp_all
  · have : p.openMarks ≠ [] := by simp_all
    have := List.length_pos_iff.2 this
    simp
    omega

end AccentPhrase

/-- The accent marks of phrases in order. -/
def accentMarks (phrases : List AccentPhrase) : List AccentMark :=
  phrases.flatMap AccentPhrase.marks

/-- The accent symbols of phrases in order. -/
def accentSymbols (phrases : List AccentPhrase) : List String :=
  (accentMarks phrases).map AccentMark.symbol

/-! ## Utterances

What a text analyzer makes of a text: breath groups of phrases of morae, each mora by its phonemes
alone.  As accent phrases they have kana and no prosody yet, and a pause between breath groups. -/

/-- A mora by its phonemes. -/
structure UtteranceMora where
  consonant : Option String
  vowel : String
  deriving DecidableEq, Repr

/-- A phrase of an utterance. -/
structure UtterancePhrase where
  moras : List UtteranceMora
  accent : Nat
  isQuestion : Bool
  deriving DecidableEq, Repr

/-- Breath groups, each a list of phrases. -/
abbrev Utterance := List (List UtterancePhrase)

namespace UtteranceMora

/-- The kana of the mora, whose phonemes may be written in capitals; `n` alone is the moraic
nasal. -/
def text (m : UtteranceMora) : String :=
  let phonemes := Text.lowerCase (m.consonant.getD "" ++ m.vowel)
  Kana.ofPhonemes (if phonemes = "n" then "N" else phonemes)

/-- The mora with its kana. -/
def toMora (m : UtteranceMora) : Mora := .plain m.text m.consonant m.vowel

end UtteranceMora

/-- The phrase with its kana. -/
def UtterancePhrase.toAccentPhrase (p : UtterancePhrase) : AccentPhrase where
  moras := p.moras.map UtteranceMora.toMora
  accent := p.accent
  isQuestion := p.isQuestion

/-- A pause behind the last phrase. -/
def pauseAtEnd : List AccentPhrase → List AccentPhrase
  | [] => []
  | [p] => [{ p with pause := some .pause }]
  | p :: rest => p :: pauseAtEnd rest

/-- The accent phrases of an utterance.  A pause ends every breath group but the last. -/
def Utterance.toAccentPhrases : Utterance → List AccentPhrase
  | [] => []
  | [group] => group.map UtterancePhrase.toAccentPhrase
  | group :: rest =>
    pauseAtEnd (group.map UtterancePhrase.toAccentPhrase) ++ Utterance.toAccentPhrases rest

end KanaVoice
