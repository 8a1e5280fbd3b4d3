import KanaVoice.Proofs.Speech.WithoutProsody
set_option autoImplicit false

/-!
# Placed values on their own phonemes

Flattened phrases are a row of parts, each a mora that is said or a pause, and every phoneme position
belongs to one part.  In its usual shape the contour of phrases with placed lengths has the value of
each position there, and that of phrases with placed pitches has at all positions of a part the value
at its vowel, or zero where nothing is voiced.
-/

namespace KanaVoice

/-- What stands at some phoneme positions: a mora that is said, or the pause behind a phrase. -/
inductive Part where
  | said (m : Mora)
  | pause (m : Mora)

namespace Part

/-- The mora of the part. -/
def mora : Part → Mora
  | said m | pause m => m

/-- How many phoneme positions the part has. -/
def phonemeCount (part : Part) : Nat := part.mora.phonemeCount

/-- Nothing is voiced in the part. -/
def isSilent : Part → Bool
  | said m => isVoiceless m.vowel
  | pause _ => true

/-- A pause is a vowel alone. -/
def IsBare : Part → Prop
  | said _ => True
  | pause m => m.consonant = none

/-- The mora of the part at `start`, placed as it is said or as a pause. -/
def placedAt (said pause : Nat → Mora → Mora) (start : Nat) : Part → Mora
  | .said m => said start m
  | .pause m => pause start m

end Part

/-- The phrase's morae and its pause as parts. -/
def AccentPhrase.parts (p : AccentPhrase) : List Part :=
  p.moras.map .said ++ p.pause.toList.map .pause

/-- All parts of phrases in order. -/
def parts (phrases : List AccentPhrase) : List Part := phrases.flatMap AccentPhrase.parts

/-- The part is one of the phrases' parts, and its first phoneme is at `start`. -/
def Part.StandsAt (part : Part) (start : Nat) (phrases : List AccentPhrase) : Prop :=
  ∃ before after, parts phrases = before ++ part :: after ∧
    start = (before.map Part.phonemeCount).sum

/-! ## Parts and flattened morae -/

theorem map_mora_parts (phrases : List AccentPhrase) :
    (parts phrases).map Part.mora = flattenMoras phrases := by
  have phrase (p : AccentPhrase) : p.parts.map Part.mora = p.flatten := by
    rw [AccentPhrase.parts, AccentPhrase.flatten, List.map_append, List.map_map, List.map_map]
    congr 1
    · exact List.map_id _
    · exact List.map_id _
  rw [parts, flattenMoras, List.map_flatMap, funext phrase]

theorem sum_phonemeCount_parts (phrases : List AccentPhrase) :
    ((parts phrases).map Part.phonemeCount).sum = phonemeTotal phrases := by
  rw [← sum_phonemeCount_flattenMoras, ← map_mora_parts, List.map_map]
  rfl

theorem AccentPhrase.sum_phonemeCount_parts (p : AccentPhrase) :
    (p.parts.map Part.phonemeCount).sum = p.phonemeCount := by
  rw [phonemeCount_eq_sum, parts, List.map_append, List.sum_append, List.map_map, List.map_map]
  rfl

section

variable {moraAt pauseAt : Nat → Mora → Mora}

theorem AccentPhrase.flatten_placedAt (start : Nat) (p : AccentPhrase) :
    (p.placedAt moraAt pauseAt start).flatten =
      mapOffsets Part.phonemeCount (Part.placedAt moraAt pauseAt) start p.parts := by
  have said (start : Nat) (moras : List Mora) :
      mapOffsets Part.phonemeCount (Part.placedAt moraAt pauseAt) start (moras.map .said) =
        mapOffsets Mora.phonemeCount moraAt start moras := by
    induction moras generalizing start with
    | nil => rfl
    | cons m rest ih =>
      rw [List.map_cons, mapOffsets, mapOffsets, ih]
      rfl
  have counts : (p.moras.map Part.said).map Part.phonemeCount = p.moras.map Mora.phonemeCount :=
    List.map_map
  rw [parts, mapOffsets_append, said, counts, flatten, placedAt]
  cases p.pause <;> rfl

/-- The flattened morae of placed phrases are the placed parts. -/
theorem flattenMoras_placedAt {phrases : List AccentPhrase}
    (bare : ∀ p ∈ phrases, p.HasBarePause) (start : Nat) :
    flattenMoras (mapOffsets AccentPhrase.shareCount (AccentPhrase.placedAt moraAt pauseAt) start
      phrases) =
      mapOffsets Part.phonemeCount (Part.placedAt moraAt pauseAt) start (parts phrases) := by
  induction phrases generalizing start with
  | nil => rfl
  | cons p rest ih =>
    have each := List.forall_mem_cons.1 bare
    have whole : parts (p :: rest) = p.parts ++ parts rest := List.flatMap_cons
    rw [mapOffsets, flattenMoras_cons, AccentPhrase.flatten_placedAt,
      AccentPhrase.shareCount_eq_phonemeCount each.1, ih each.2, whole, mapOffsets_append,
      p.sum_phonemeCount_parts]

end

/-! ## Positions of parts -/

namespace Part

variable {part : Part} {start : Nat} {phrases : List AccentPhrase}

theorem StandsAt.le_phonemeTotal (h : part.StandsAt start phrases) :
    start + part.phonemeCount ≤ phonemeTotal phrases := by
  obtain ⟨before, after, whole, rfl⟩ := h
  rw [← sum_phonemeCount_parts, whole, List.map_append, List.sum_append, List.map_cons,
    List.sum_cons]
  omega

/-- A stream over the parts has those of a part at its positions. -/
theorem StandsAt.take_drop {β : Type} {stream : Nat → Part → List β}
    (lengths : ∀ start part, (stream start part).length = part.phonemeCount)
    (h : part.StandsAt start phrases) :
    (((mapOffsets phonemeCount stream 0 (parts phrases)).flatten.drop start).take
      part.phonemeCount) = stream start part := by
  obtain ⟨before, after, whole, rfl⟩ := h
  have first : (mapOffsets phonemeCount stream 0 before).flatten.length =
      (before.map phonemeCount).sum := by
    rw [List.length_flatten, map_mapOffsets fun part _ start => lengths start part]
  rw [whole, mapOffsets_append, Nat.zero_add, List.flatten_append, ← first, List.drop_left,
    mapOffsets, List.flatten_cons, ← lengths _ part, List.take_left]

/-- Each position belongs to a part. -/
theorem exists_standsAt {position : Nat} (h : position < phonemeTotal phrases) :
    ∃ part start, StandsAt part start phrases ∧ start ≤ position ∧
      position < start + part.phonemeCount := by
  have found (start : Nat) (l : List Part) (least : start ≤ position)
      (inside : position < start + (l.map phonemeCount).sum) :
      ∃ before part after, l = before ++ part :: after ∧
        start + (before.map phonemeCount).sum ≤ position ∧
        position < start + (before.map phonemeCount).sum + part.phonemeCount := by
    induction l generalizing start with
    | nil => exact absurd inside (by simpa using least)
    | cons part rest ih =>
      rw [List.map_cons, List.sum_cons] at inside
      by_cases here : position < start + part.phonemeCount
      · exact ⟨[], part, rest, rfl, by simpa using least, by simpa using here⟩
      · obtain ⟨before, found, after, rfl, first, last⟩ :=
          ih (start + part.phonemeCount) (by omega) (by omega)
        refine ⟨part :: before, found, after, rfl, ?_, ?_⟩
        · rw [List.map_cons, List.sum_cons]
          omega
        · rw [List.map_cons, List.sum_cons]
          omega
  rw [← sum_phonemeCount_parts] at h
  obtain ⟨before, part, after, whole, first, last⟩ := found 0 (parts phrases) (by omega) (by omega)
  rw [Nat.zero_add] at first last
  exact ⟨part, _, ⟨before, after, whole, rfl⟩, first, last⟩

end Part

theorem Mora.vowelAt_lt (start : Nat) (m : Mora) : m.vowelAt start < start + m.phonemeCount := by
  unfold vowelAt phonemeCount
  split
  · omega
  · omega

theorem Mora.getElem?_phonemes (start : Nat) (m : Mora) :
    m.phonemes[m.vowelAt start - start]? = some m.vowel := by
  cases h : m.consonant <;> simp [phonemes, vowelAt, h]

namespace Part

variable {part : Part} {start position : Nat} {phrases : List AccentPhrase}

theorem StandsAt.getElem? {β : Type} {stream : Nat → Part → List β}
    (lengths : ∀ start part, (stream start part).length = part.phonemeCount)
    (h : part.StandsAt start phrases) (first : start ≤ position)
    (last : position < start + part.phonemeCount) :
    (mapOffsets phonemeCount stream 0 (parts phrases)).flatten[position]? =
      (stream start part)[position - start]? := by
  have place : start + (position - start) = position := by omega
  rw [← h.take_drop lengths, List.getElem?_take_of_lt (by omega), List.getElem?_drop, place]

end Part

/-! ## Values -/

section

variable {values : List Float32} {phrases : List AccentPhrase}

theorem valueAt_of_lt {position : Nat} (h : position < values.length) :
    values[position]? = some (valueAt values position) := by
  rw [valueAt, List.getD_eq_getElem?_getD, List.getElem?_eq_getElem h, Option.getD_some]

theorem map_valueAt_range (values : List Float32) :
    (List.range values.length).map (valueAt values) = values := by
  apply List.ext_getElem?
  intro position
  rw [List.getElem?_map]
  by_cases inside : position < values.length
  · rw [List.getElem?_range inside, valueAt_of_lt inside]
    rfl
  · rw [List.getElem?_eq_none (by simpa using inside), List.getElem?_eq_none (by simpa using inside)]
    rfl

theorem phonemeSymbols_eq_flatten (phrases : List AccentPhrase) :
    phonemeSymbols (flattenMoras phrases) =
      (mapOffsets Part.phonemeCount (fun _ part => part.mora.phonemes) 0 (parts phrases)).flatten := by
  rw [← map_mora_parts, phonemeSymbols, List.flatMap_map, List.flatMap_def]
  congr 1
  have same : (mapOffsets Part.phonemeCount (fun _ part => part) 0 (parts phrases)).map
      (fun part => part.mora.phonemes) = (parts phrases).map fun part => part.mora.phonemes :=
    map_mapOffsets (f := fun _ part => part) (fun _ _ _ => rfl) 0
  rw [← same, map_mapOffsets_comp]

/-- The pitches of phrases with placed pitches, part by part. -/
theorem pitches_withPitches (bare : ∀ p ∈ phrases, p.HasBarePause)
    {toned : List AccentPhrase} (placed : withPitches phrases values = .ok toned) :
    (contour (flattenMoras toned) {}).pitches =
      (mapOffsets Part.phonemeCount (fun start part =>
        (part.placedAt (Mora.pitchAt values) (fun _ => Mora.silent) start).shiftedPitches 1)
        0 (parts phrases)).flatten := by
  obtain ⟨-, rfl⟩ := withPitches_eq_ok_iff.1 placed
  rw [contour_usual]
  show (flattenMoras (mapOffsets AccentPhrase.shareCount (AccentPhrase.placedAt _ _) 0
    phrases)).flatMap _ = _
  rw [flattenMoras_placedAt bare, List.flatMap_def, map_mapOffsets_comp]

/-- All positions of a part have one pitch. -/
theorem Part.getElem?_shiftedPitches {part : Part} {start position : Nat}
    (first : start ≤ position) (last : position < start + part.phonemeCount)
    (inside : start + part.phonemeCount ≤ values.length) :
    ((part.placedAt (Mora.pitchAt values) (fun _ => Mora.silent) start).shiftedPitches
      1)[position - start]? =
      if part.isSilent then some 0 else values[part.mora.vowelAt start]? := by
  have spread (m : Mora) (here : position < start + m.phonemeCount) :
      (m.shiftedPitches 1)[position - start]? = some m.pitch := by
    rw [Mora.getElem?_shiftedPitches 1 (by omega), Single.mul_one]
  cases part with
  | pause m => exact spread m.silent last
  | said m =>
    have vowel : m.vowelAt start < values.length := Nat.lt_of_lt_of_le (m.vowelAt_lt start) inside
    show ((m.pitchAt values start).shiftedPitches 1)[position - start]? = _
    rw [spread (m.pitchAt values start) last, mora, valueAt_of_lt vowel, Mora.pitchAt, isSilent]
    split
    · rfl
    · rfl

theorem isBare_of_mem_parts (bare : ∀ p ∈ phrases, p.HasBarePause) :
    ∀ part ∈ parts phrases, part.IsBare := by
  intro part mem
  obtain ⟨p, own, mem⟩ := List.mem_flatMap.1 mem
  rcases List.mem_append.1 mem with said | pause
  · obtain ⟨m, -, rfl⟩ := List.mem_map.1 said
    trivial
  · obtain ⟨m, found, rfl⟩ := List.mem_map.1 pause
    exact bare p own m (Option.mem_toList.1 found)

/-- A part with placed lengths has the values of its positions. -/
theorem Part.scaledLengths_placedAt {part : Part} (bare : part.IsBare) (start : Nat) :
    (part.placedAt (Mora.lengthsAt values) (Mora.pauseLengthAt values) start).scaledLengths 1 =
      (List.range' start part.phonemeCount).map (valueAt values) := by
  cases part with
  | pause m =>
    have single : m.consonant = none := bare
    simp [placedAt, Mora.scaledLengths, Mora.pauseLengthAt, single, Single.div_one, phonemeCount,
      mora, Mora.phonemeCount]
  | said m =>
    cases h : m.consonant <;>
      simp [placedAt, Mora.scaledLengths, Mora.lengthsAt, Mora.vowelAt, h, Single.div_one,
        phonemeCount, mora, Mora.phonemeCount, List.range'_succ]

/-- The lengths of phrases with placed lengths are the values. -/
theorem durations_withLengths (bare : ∀ p ∈ phrases, p.HasBarePause)
    {timed : List AccentPhrase} (placed : withLengths phrases values = .ok timed) :
    (contour (flattenMoras timed) {}).durations = values := by
  obtain ⟨aligned, rfl⟩ := withLengths_eq_ok_iff.1 placed
  have positions : ((mapOffsets Part.phonemeCount (fun start part =>
      List.range' start part.phonemeCount) 0 (parts phrases)).flatten).filterMap some =
        List.range' 0 ((parts phrases).map Part.phonemeCount).sum :=
    filterMap_mapOffsets (fun _ _ _ => List.filterMap_some) 0
  rw [List.filterMap_some, sum_phonemeCount_parts, ← aligned, ← List.range_eq_range'] at positions
  have lengths : (mapOffsets Part.phonemeCount
      (Part.placedAt (Mora.lengthsAt values) (Mora.pauseLengthAt values)) 0
      (parts phrases)).flatMap (Mora.scaledLengths 1) =
        ((mapOffsets Part.phonemeCount (fun start part => List.range' start part.phonemeCount) 0
          (parts phrases)).flatten).map (valueAt values) := by
    refine flatMap_mapOffsets (fun _ l => ∀ part ∈ l, part.IsBare) ?_ (isBare_of_mem_parts bare)
    intro part rest start bare
    have each := List.forall_mem_cons.1 bare
    exact ⟨Part.scaledLengths_placedAt each.1 start, each.2⟩
  rw [contour_usual]
  show (flattenMoras (mapOffsets AccentPhrase.shareCount (AccentPhrase.placedAt _ _) 0
    phrases)).flatMap _ = _
  rw [flattenMoras_placedAt bare, lengths, positions, map_valueAt_range]

end

/-! ## What lands where -/

/-- Each of the values lands on its own phoneme of the phrases. -/
structure LandsOn (values : List Float32) (phrases : List AccentPhrase) : Prop where
  /-- As lengths the values come back position by position. -/
  lengths : ∃ timed, withLengths phrases values = .ok timed ∧
    (contour (flattenMoras timed) {}).durations = values
  /-- As pitches they come back on all positions of a part, from the position of its vowel; where
  nothing is voiced the pitch is zero. -/
  pitches : ∃ toned, withPitches phrases values = .ok toned ∧
    (contour (flattenMoras toned) {}).pitches.length = values.length ∧
    ∀ part start, Part.StandsAt part start phrases →
      ∀ position, start ≤ position → position < start + part.phonemeCount →
        (contour (flattenMoras toned) {}).pitches[position]? =
          if part.isSilent then some 0 else values[part.mora.vowelAt start]?
  /-- The positions of a part are those of its mora's phonemes. -/
  phonemes : ∀ part start, Part.StandsAt part start phrases →
    ((phonemeSymbols (flattenMoras phrases)).drop start).take part.phonemeCount =
        part.mora.phonemes ∧
      (phonemeSymbols (flattenMoras phrases))[part.mora.vowelAt start]? = some part.mora.vowel
  /-- Each position belongs to a part. -/
  covered : ∀ position < values.length, ∃ part start, Part.StandsAt part start phrases ∧
    start ≤ position ∧ position < start + part.phonemeCount

/-- As many values as there are phonemes land on these. -/
theorem landsOn_of_aligned {phrases : List AccentPhrase} {values : List Float32}
    (bare : ∀ p ∈ phrases, p.HasBarePause) (aligned : values.length = phonemeTotal phrases) :
    LandsOn values phrases where
  lengths := by
    have placed := withLengths_eq_ok_iff.2 ⟨aligned, rfl⟩
    exact ⟨_, placed, durations_withLengths bare placed⟩
  pitches := by
    have placed := withPitches_eq_ok_iff.2 ⟨aligned, rfl⟩
    refine ⟨_, placed, ?_, fun part start stands position first last => ?_⟩
    · rw [length_pitches_contour, (sameSymbols_of_withPitches placed).phonemeTotal, aligned]
    · have inside := stands.le_phonemeTotal
      rw [pitches_withPitches bare placed, stands.getElem? ?_ first last,
        Part.getElem?_shiftedPitches first last (by omega)]
      intro start part
      rw [Mora.length_shiftedPitches]
      cases part <;> rfl
  phonemes := by
    intro part start stands
    have lengths (start : Nat) (part : Part) : part.mora.phonemes.length = part.phonemeCount :=
      part.mora.length_phonemes
    have vowel := part.mora.vowelAt_lt start
    have least : start ≤ part.mora.vowelAt start := by
      unfold Mora.vowelAt
      split
      · omega
      · omega
    rw [phonemeSymbols_eq_flatten, stands.take_drop lengths, stands.getElem? lengths least vowel]
    exact ⟨rfl, part.mora.getElem?_phonemes start⟩
  covered := by
    intro position inside
    exact Part.exists_standsAt (by omega)

/-- A voiced mora, a devoiced one and a pause, then a phrase without morae and a nasal. -/
def devoicedBeforePause : List AccentPhrase :=
  [{ moras := [.plain "カ" (some "k") "a", .plain "ス" (some "s") "U"], accent := 1,
     pause := some .pause },
   { moras := [], accent := 0 },
   { moras := [.plain "ン" none "N"], accent := 1 }]

/-- The consonant before a voiced vowel has the value of that vowel, and the devoiced mora and the
pause are at zero. -/
theorem landsOn_devoicedBeforePause :
    (∀ p ∈ devoicedBeforePause, p.HasBarePause) ∧
    ([5, 6, 7, 8, 9, 4] : List Float32).length = phonemeTotal devoicedBeforePause ∧
    LandsOn [5, 6, 7, 8, 9, 4] devoicedBeforePause ∧
    ∃ toned, withPitches devoicedBeforePause [5, 6, 7, 8, 9, 4] = .ok toned ∧
      (contour (flattenMoras toned) {}).pitches[0]? = some 6 ∧
      (contour (flattenMoras toned) {}).pitches[3]? = some 0 ∧
      (contour (flattenMoras toned) {}).pitches[4]? = some 0 := by
  have bare : ∀ p ∈ devoicedBeforePause, p.HasBarePause := by
    simp [devoicedBeforePause, AccentPhrase.HasBarePause, Mora.pause, Mora.plain]
  have lands : LandsOn [5, 6, 7, 8, 9, 4] devoicedBeforePause := landsOn_of_aligned bare rfl
  obtain ⟨toned, placed, -, each⟩ := lands.pitches
  have voiced : Part.StandsAt (.said (.plain "カ" (some "k") "a")) 0 devoicedBeforePause :=
    ⟨[], _, rfl, rfl⟩
  have devoiced : Part.StandsAt (.said (.plain "ス" (some "s") "U")) 2 devoicedBeforePause :=
    ⟨[.said (.plain "カ" (some "k") "a")], _, rfl, rfl⟩
  have pause : Part.StandsAt (.pause .pause) 4 devoicedBeforePause :=
    ⟨[.said (.plain "カ" (some "k") "a"), .said (.plain "ス" (some "s") "U")], _, rfl, rfl⟩
  exact ⟨bare, rfl, lands, toned, placed, each _ 0 voiced 0 (by decide) (by decide),
    each _ 2 devoiced 3 (by decide) (by decide), each _ 4 pause 4 (by decide) (by decide)⟩

end KanaVoice
