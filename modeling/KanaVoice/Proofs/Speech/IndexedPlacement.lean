import KanaVoice.Proofs.Speech.Joined
import KanaVoice.Proofs.Speech.WithoutProsody
set_option autoImplicit false

/-!
# Placing values by their positions

Values can also be placed with one position that runs over all phrases, where each phoneme reads
the value at the position and moves it on.  Such a walk has no value to read as soon as the position
leaves the list, and nothing in it looks at the length of the list: what keeps it inside is the
total that was compared before it began.  The invariant is that the position and the phonemes still
to come are never more than the values.
-/

namespace KanaVoice

/-! ## Walks -/

/-- Visits the elements in order, each at the position that the visit before it came to; none as
soon as one reads past the end. -/
def walk {α β : Type} (visit : Nat → α → Option (β × Nat)) :
    Nat → List α → Option (List β × Nat)
  | position, [] => some ([], position)
  | position, a :: rest => do
    let (b, position) ← visit position a
    let (rest, position) ← walk visit position rest
    some (b :: rest, position)

/-- A walk is a map over the offsets, if each visit within the first `n` positions moves on by the
size of what it visits. -/
theorem walk_eq {α β : Type} {visit : Nat → α → Option (β × Nat)} {size : α → Nat}
    {f : Nat → α → β} {n : Nat}
    (step : ∀ a position, position + size a ≤ n →
      visit position a = some (f position a, position + size a))
    (l : List α) (position : Nat) (enough : position + (l.map size).sum ≤ n) :
    walk visit position l = some (mapOffsets size f position l, position + (l.map size).sum) := by
  induction l generalizing position with
  | nil => rfl
  | cons a rest ih =>
    rw [List.map_cons, List.sum_cons] at enough ⊢
    have here := step a position (by omega)
    have later := ih (position + size a) (by omega)
    rw [Nat.add_assoc] at later
    simp only [walk, here, later, Option.bind_eq_bind, Option.bind_some]
    rfl

/-! ## Morae and pauses -/

theorem getElem?_eq_valueAt {values : List Float32} {position : Nat}
    (h : position < values.length) : values[position]? = some (valueAt values position) := by
  rw [valueAt, List.getD_eq_getElem?_getD, List.getElem?_eq_getElem h, Option.getD_some]

namespace Mora

/-- Reads the length of the consonant, if there is one. -/
def readConsonantLength (values : List Float32) (position : Nat) (m : Mora) :
    Option (Mora × Nat) :=
  if m.consonant.isSome then do
    let length ← values[position]?
    some ({ m with consonantLength := some length }, position + 1)
  else some (m, position)

/-- Reads the length of the vowel. -/
def readVowelLength (values : List Float32) (position : Nat) (m : Mora) : Option (Mora × Nat) := do
  let length ← values[position]?
  some ({ m with vowelLength := length }, position + 1)

/-- Reads the lengths of the mora's phonemes. -/
def readLengths (values : List Float32) (position : Nat) (m : Mora) : Option (Mora × Nat) := do
  let (m, position) ← m.readConsonantLength values position
  m.readVowelLength values position

/-- Reads the pitch at the vowel, unless that is voiceless. -/
def readPitch (values : List Float32) (position : Nat) (m : Mora) : Option (Mora × Nat) := do
  let pitch ← if isVoiceless m.vowel then some 0 else values[m.vowelAt position]?
  some ({ m with pitch := pitch }, m.vowelAt position + 1)

/-- Passes over the pitch of a pause. -/
def skipPitch (position : Nat) (m : Mora) : Option (Mora × Nat) := some (m.silent, position + 1)

variable {values : List Float32} {position : Nat}

theorem vowelAt_succ (position : Nat) (m : Mora) :
    m.vowelAt position + 1 = position + m.phonemeCount := by
  unfold vowelAt phonemeCount
  split <;> rfl

theorem readLengths_eq (m : Mora) (h : position + m.phonemeCount ≤ values.length) :
    m.readLengths values position =
      some (m.lengthsAt values position, position + m.phonemeCount) := by
  cases hc : m.consonant with
  | none =>
    rw [phonemeCount_of_bare hc] at h ⊢
    have vowel := getElem?_eq_valueAt h
    simp [readLengths, readConsonantLength, readVowelLength, lengthsAt, vowelAt, hc, vowel]
  | some c =>
    rw [phonemeCount_of_consonant hc] at h ⊢
    have consonant : values[position]? = some (valueAt values position) :=
      getElem?_eq_valueAt (by omega)
    have vowel : values[position + 1]? = some (valueAt values (position + 1)) :=
      getElem?_eq_valueAt h
    simp [readLengths, readConsonantLength, readVowelLength, lengthsAt, vowelAt, hc, consonant,
      vowel]

theorem readPitch_eq (m : Mora) (h : position + m.phonemeCount ≤ values.length) :
    m.readPitch values position = some (m.pitchAt values position, position + m.phonemeCount) := by
  have next := vowelAt_succ position m
  have vowel : values[m.vowelAt position]? = some (valueAt values (m.vowelAt position)) :=
    getElem?_eq_valueAt (by omega)
  rw [readPitch, vowel, next, pitchAt]
  split <;> rfl

theorem readPauseLength_eq (m : Mora) (h : position < values.length) :
    m.readVowelLength values position = some (m.pauseLengthAt values position, position + 1) := by
  rw [readVowelLength, getElem?_eq_valueAt h]
  rfl

end Mora

/-! ## Phrases -/

namespace AccentPhrase

/-- Visits the morae of the phrase and then its pause. -/
def read (mora pause : Nat → Mora → Option (Mora × Nat)) (position : Nat) (p : AccentPhrase) :
    Option (AccentPhrase × Nat) := do
  let (moras, position) ← walk mora position p.moras
  match p.pause with
  | none => some ({ p with moras }, position)
  | some m =>
    let (m, position) ← pause position m
    some ({ p with moras, pause := some m }, position)

/-- Reads the lengths of the phrase's phonemes. -/
def readLengths (values : List Float32) : Nat → AccentPhrase → Option (AccentPhrase × Nat) :=
  read (Mora.readLengths values) (Mora.readVowelLength values)

/-- Reads the pitches of the phrase's morae. -/
def readPitches (values : List Float32) : Nat → AccentPhrase → Option (AccentPhrase × Nat) :=
  read (Mora.readPitch values) Mora.skipPitch

theorem read_eq {mora pause : Nat → Mora → Option (Mora × Nat)} {moraAt pauseAt : Nat → Mora → Mora}
    {n : Nat}
    (moraStep : ∀ m position, position + m.phonemeCount ≤ n →
      mora position m = some (moraAt position m, position + m.phonemeCount))
    (pauseStep : ∀ m position, position < n →
      pause position m = some (pauseAt position m, position + 1))
    (p : AccentPhrase) (position : Nat) (enough : position + p.shareCount ≤ n) :
    p.read mora pause position =
      some (p.placedAt moraAt pauseAt position, position + p.shareCount) := by
  rw [shareCount] at enough ⊢
  rw [read, walk_eq moraStep p.moras position (by omega)]
  cases hp : p.pause with
  | none => simp [placedAt, hp]
  | some m =>
    rw [hp, Option.toList_some, List.length_singleton] at enough
    have pause := pauseStep m (position + (p.moras.map Mora.phonemeCount).sum) (by omega)
    simp [placedAt, hp, pause, Nat.add_assoc]

variable {values : List Float32}

theorem readLengths_eq (p : AccentPhrase) (position : Nat)
    (enough : position + p.shareCount ≤ values.length) :
    p.readLengths values position =
      some (p.lengthsAt values position, position + p.shareCount) :=
  read_eq (fun m _ => m.readLengths_eq) (fun m _ => m.readPauseLength_eq) p position enough

theorem readPitches_eq (p : AccentPhrase) (position : Nat)
    (enough : position + p.shareCount ≤ values.length) :
    p.readPitches values position =
      some (p.pitchesAt values position, position + p.shareCount) :=
  read_eq (fun m _ => m.readPitch_eq) (fun _ _ _ => rfl) p position enough

end AccentPhrase

/-! ## All phrases -/

/-- Compares the number of values with that of the phonemes and walks over the phrases; none when
the walk reads past the end of the values. -/
def readValues (what : String)
    (read : List Float32 → Nat → AccentPhrase → Option (AccentPhrase × Nat))
    (phrases : List AccentPhrase) (values : List Float32) :
    Option (Except Fault (List AccentPhrase)) :=
  if values.length ≠ phonemeTotal phrases then
    some (.error (.inference .variance
      (.unalignedValues values.length what (phonemeTotal phrases))))
  else (walk (read values) 0 phrases).map fun walked => .ok walked.1

/-- There are as many phrases, each with as many morae, and the morae and pauses have the same
phonemes. -/
structure KeepsPhonemes (placed phrases : List AccentPhrase) : Prop where
  number : placed.length = phrases.length
  moraCounts : placed.map (fun p => p.moras.length) = phrases.map fun p => p.moras.length
  moras : placed.map (fun p => p.moras.map Mora.phonemes) =
    phrases.map fun p => p.moras.map Mora.phonemes
  pauses : placed.map (fun p => p.pause.map Mora.phonemes) =
    phrases.map fun p => p.pause.map Mora.phonemes

theorem SameSymbols.keepsPhonemes {placed phrases : List AccentPhrase}
    (h : SameSymbols placed phrases) : KeepsPhonemes placed phrases where
  number := by
    have lengths := congrArg List.length h
    rwa [List.length_map, List.length_map] at lengths
  moraCounts := h.map_eq fun p => List.length_map Mora.withoutProsody
  moras := by
    apply h.map_eq
    intro p
    rw [AccentPhrase.withoutProsody, List.map_map]
    rfl
  pauses := by
    apply h.map_eq
    intro p
    rw [AccentPhrase.withoutProsody, Option.map_map]
    rfl

/-- What placing values by their positions comes to.  It gives no phrases exactly when the numbers
of values and phonemes differ, and then says so; otherwise the walk never leaves the list. -/
structure PlacesInBounds (what : String)
    (read : List Float32 → Nat → AccentPhrase → Option (AccentPhrase × Nat))
    (place : List AccentPhrase → List Float32 → Except Fault (List AccentPhrase))
    (phrases : List AccentPhrase) (values : List Float32) : Prop where
  /-- Every read finds a value, and the walk gives what is placed from the front. -/
  reads : readValues what read phrases values = some (place phrases values)
  fails_iff : place phrases values = .error (.inference .variance
      (.unalignedValues values.length what (phonemeTotal phrases))) ↔
    values.length ≠ phonemeTotal phrases
  succeeds_iff : (∃ placed, place phrases values = .ok placed) ↔
    values.length = phonemeTotal phrases
  /-- The position behind any first phrases is what these have taken, and there are values left
  for all phonemes of the others. -/
  leaves : values.length = phonemeTotal phrases → ∀ first rest, phrases = first ++ rest →
    (∃ placed, walk (read values) 0 first = some (placed, takenTotal first)) ∧
    takenTotal first + phonemeTotal rest ≤ values.length
  keeps : ∀ placed, place phrases values = .ok placed → KeepsPhonemes placed phrases

section

variable {what : String} {read : List Float32 → Nat → AccentPhrase → Option (AccentPhrase × Nat)}
  {place : List AccentPhrase → List Float32 → Except Fault (List AccentPhrase)}
  {placeAt : List Float32 → Nat → AccentPhrase → AccentPhrase}
  {phrases : List AccentPhrase} {values : List Float32}

/-- The walk over phrases that have values for all their phonemes. -/
theorem walk_phrases
    (step : ∀ p position, position + p.shareCount ≤ values.length →
      read values position p = some (placeAt values position p, position + p.shareCount))
    (enough : phonemeTotal phrases ≤ values.length) :
    walk (read values) 0 phrases =
      some (mapOffsets AccentPhrase.shareCount (placeAt values) 0 phrases, takenTotal phrases) := by
  have taken := sum_shareCount_le phrases
  rw [walk_eq step phrases 0 (by omega), Nat.zero_add, takenTotal]

/-- Phrases are placed within the values, if each of them reads its own share. -/
theorem placesInBounds_of_read
    (step : ∀ p position, position + p.shareCount ≤ values.length →
      read values position p = some (placeAt values position p, position + p.shareCount))
    (unaligned : values.length ≠ phonemeTotal phrases → place phrases values = .error
      (.inference .variance (.unalignedValues values.length what (phonemeTotal phrases))))
    (aligned : values.length = phonemeTotal phrases → place phrases values =
      .ok (mapOffsets AccentPhrase.shareCount (placeAt values) 0 phrases))
    (keeps : ∀ placed, place phrases values = .ok placed → SameSymbols placed phrases) :
    PlacesInBounds what read place phrases values where
  reads := by
    by_cases same : values.length = phonemeTotal phrases
    · rw [readValues, if_neg (not_not_intro same), walk_phrases step same.ge, aligned same]
      rfl
    · rw [readValues, if_pos same, unaligned same]
  fails_iff := by
    refine ⟨fun failed same => ?_, unaligned⟩
    rw [aligned same] at failed
    cases failed
  succeeds_iff := by
    refine ⟨fun ⟨placed, done⟩ => ?_, fun same => ⟨_, aligned same⟩⟩
    by_contra differ
    rw [unaligned differ] at done
    cases done
  leaves := by
    rintro same first rest rfl
    rw [phonemeTotal_append] at same
    refine ⟨⟨_, walk_phrases step (by omega)⟩, ?_⟩
    have taken : takenTotal first ≤ phonemeTotal first := sum_shareCount_le first
    omega
  keeps placed done := (keeps placed done).keepsPhonemes

end

theorem placeValues_of_ne {what : String}
    {place : AccentPhrase → List Float32 → Option (AccentPhrase × List Float32)}
    {phrases : List AccentPhrase} {values : List Float32}
    (h : values.length ≠ phonemeTotal phrases) :
    placeValues what place phrases values = .error
      (.inference .variance (.unalignedValues values.length what (phonemeTotal phrases))) := by
  rw [placeValues, if_pos h]

/-- Lengths and pitches are placed within their lists, whatever the phrases and the values. -/
theorem placements_inBounds (phrases : List AccentPhrase) (values : List Float32) :
    PlacesInBounds "durations" AccentPhrase.readLengths withLengths phrases values ∧
    PlacesInBounds "pitches" AccentPhrase.readPitches withPitches phrases values := by
  constructor
  · exact placesInBounds_of_read (fun p position => p.readLengths_eq position) placeValues_of_ne
      (fun same => withLengths_eq_ok_iff.2 ⟨same, rfl⟩) fun _ => sameSymbols_of_withLengths
  · exact placesInBounds_of_read (fun p position => p.readPitches_eq position) placeValues_of_ne
      (fun same => withPitches_eq_ok_iff.2 ⟨same, rfl⟩) fun _ => sameSymbols_of_withPitches

-- Without the comparison the walk would leave a list that is too short.
example :
    walk (AccentPhrase.readLengths [1]) 0
      [{ moras := [Mora.plain "カ" (some "k") "a"], accent := 1 }] = none := rfl

end KanaVoice
