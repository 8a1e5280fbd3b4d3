import KanaVoice.Fault
import KanaVoice.Speech.AccentPhrase
set_option autoImplicit false

/-!
# The kana notation

```text
コンニチワ'/_シ'タ、キョ'ウワ？
```

A phrase is its kana with an apostrophe after the accented mora.  An underline in front of a
mora says that its vowel is devoiced.  A slash joins two phrases, `、` puts a pause between them,
and `？` at a phrase's end makes it a question.
-/

namespace KanaVoice.Kana

/-! ## Marks -/

/-- Follows the accented mora. -/
def accentMark : Char := '\''

/-- Stands before a mora with a devoiced vowel. -/
def devoiceMark : Char := '_'

/-- Ends a question. -/
def questionMark : Char := '？'

/-- What stands between two phrases. -/
inductive Delimiter where
  | joint
  | pause
  deriving DecidableEq, Repr

namespace Delimiter

/-- The delimiter's character. -/
def char : Delimiter → Char
  | .joint => '/'
  | .pause => '、'

/-- The delimiter that a character is. -/
def ofChar? (c : Char) : Option Delimiter :=
  if c = joint.char then some .joint
  else if c = pause.char then some .pause
  else none

theorem ofChar?_char (d : Delimiter) : ofChar? d.char = some d := by
  cases d <;> decide

end Delimiter

/-- The vowels that can be devoiced, each with its devoiced form. -/
def devoicing : List (String × String) :=
  [("a", "A"), ("i", "I"), ("u", "U"), ("e", "E"), ("o", "O")]

/-- The devoiced form of a vowel. -/
def devoice? (vowel : String) : Option String := devoicing.lookup vowel

/-- The vowel is a devoiced one. -/
def isDevoiced (vowel : String) : Bool := (devoicing.map Prod.snd).contains vowel

/-! ## Reading

A text is cut at its delimiters, and each piece is read as one phrase: mora by mora, each the
longest kana that fits, with exactly one accent mark, after a mora. -/

theorem kana_ne_nil {e : Entry} (h : e ∈ table) : e.kana.toList ≠ [] := by
  have all : ∀ e ∈ table, e.kana.toList ≠ [] := by decide +kernel
  exact all e h

theorem longestPrefix?_shortens {text : List Char} {e : Entry} (h : longestPrefix? text = some e) :
    (text.drop e.kana.toList.length).length < text.length := by
  have mem : e ∈ table := List.mem_of_find?_eq_some h
  have pre : e.kana.toList <+: text := by simpa using List.find?_some h
  have := List.length_pos_iff.2 (kana_ne_nil mem)
  have := pre.length_le
  simp only [List.length_drop]
  omega

/-- The mora that an entry writes. -/
def plainMora (e : Entry) (vowel : String) : Mora := .plain e.kana e.consonant vowel

/-- The text behind the underline that it may start with. -/
def dropDevoiceMark (text : List Char) : List Char :=
  if text.head? = some devoiceMark then text.tail else text

theorem length_dropDevoiceMark_le (text : List Char) :
    (dropDevoiceMark text).length ≤ text.length := by
  unfold dropDevoiceMark
  split <;> simp

/-- The morae of a phrase and the place of its accent, after `count` morae have been read and
perhaps the accent mark. -/
def readMoras (count : Nat) (accent : Option Nat) (text : List Char) :
    Except KanaFault (List Mora × Option Nat) :=
  match text with
  | [] => .ok ([], accent)
  | c :: rest =>
    if c = accentMark then
      if count = 0 then .error .accentBeforeMora
      else if accent.isSome then .error .secondAccent
      else readMoras count (some count) rest
    else
      match _h : longestPrefix? (dropDevoiceMark (c :: rest)) with
      | none => .error (.unknownMora (String.ofList (dropDevoiceMark (c :: rest))))
      | some e => do
        let vowel ←
          if c = devoiceMark then
            match devoice? e.vowel with
            | some vowel => .ok vowel
            | none => .error (.cannotDevoice e.kana)
          else .ok e.vowel
        let (moras, accent) ← readMoras (count + 1) accent
          ((dropDevoiceMark (c :: rest)).drop e.kana.toList.length)
        .ok (plainMora e vowel :: moras, accent)
termination_by text.length
decreasing_by
  · simp
  · exact Nat.lt_of_lt_of_le (longestPrefix?_shortens ‹_›) (length_dropDevoiceMark_le _)

/-- The phrase that a piece between delimiters writes. -/
def readPhrase (piece : List Char) : Except KanaFault AccentPhrase := do
  let isQuestion := piece.getLast? = some questionMark
  let (moras, accent) ← readMoras 0 none (if isQuestion then piece.dropLast else piece)
  if moras.isEmpty then .error .emptyPhrase
  match accent with
  | none => .error .noAccent
  | some accent => .ok { moras, accent, isQuestion }

/-- The pieces between delimiters, each with the delimiter behind it; the last one has none. -/
def pieces : List Char → List (List Char × Option Delimiter)
  | [] => [([], none)]
  | c :: cs =>
    match Delimiter.ofChar? c, pieces cs with
    | some d, rest => ([], some d) :: rest
    | none, (piece, d) :: rest => (c :: piece, d) :: rest
    | none, [] => [([c], none)]

/-- A piece's phrase, with a pause behind it if its delimiter asks for one. -/
def readPiece (piece : List Char × Option Delimiter) : Except KanaFault AccentPhrase := do
  let phrase ← readPhrase piece.1
  .ok (if piece.2 = some .pause then { phrase with pause := some .pause } else phrase)

/-- The phrases of a text; the empty text has none. -/
def read (text : String) : Except Fault (List AccentPhrase) :=
  if text = "" then .ok []
  else ((pieces text.toList).mapM readPiece).mapError (.kana text)

/-! ## Writing

Every phrase as it is read: an underline before a devoiced mora, the accent mark behind the accented
one, `？` behind a question.  A delimiter follows every phrase but the last. -/

/-- The morae in order, counted from `index`, with the mark behind the accented one. -/
def moraChars (accent : Nat) (index : Nat) : List Mora → List Char
  | [] => []
  | m :: rest =>
    (if isDevoiced m.vowel then [devoiceMark] else []) ++ m.text.toList ++
    (if index + 1 = accent then [accentMark] else []) ++ moraChars accent (index + 1) rest

/-- A phrase without its delimiter. -/
def phraseChars (p : AccentPhrase) : List Char :=
  moraChars p.accent 0 p.moras ++ (if p.isQuestion then [questionMark] else [])

/-- The delimiter that a phrase has when another one follows. -/
def delimiterOf (p : AccentPhrase) : Delimiter :=
  if p.pause.isSome then .pause else .joint

/-- The phrases with their delimiters between them. -/
def phrasesChars : List AccentPhrase → List Char
  | [] => []
  | [p] => phraseChars p
  | p :: rest => phraseChars p ++ (delimiterOf p).char :: phrasesChars rest

/-- The notation of the phrases. -/
def write (phrases : List AccentPhrase) : String := String.ofList (phrasesChars phrases)

end KanaVoice.Kana
