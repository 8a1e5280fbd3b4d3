import KanaVoice.Proofs.Speech.StreamLength
import KanaVoice.Speech.Prosody
set_option autoImplicit false

/-!
# Where placed values come from

Dealing values out from the front gives each phoneme the value of its own position: the positions
before it are those of the morae before it.  So placing values is a map over the morae with their
offsets, and it succeeds exactly when there is one value for each phoneme.  A pause takes one
value even if it counts two phonemes, hence the shares of phrases are counted apart.
-/

namespace KanaVoice

/-! ## Elements by their offsets

A list whose elements take up positions one after another is walked with a running offset.  Here the
walk is a map over the elements with their offsets, and what holds of each element at its offset
holds of the whole walk. -/

section

variable {α β γ δ : Type}

/-- Each element with its offset, which is `start` plus the sizes of the elements before it. -/
def mapOffsets (size : α → Nat) (f : Nat → α → β) : Nat → List α → List β
  | _, [] => []
  | start, a :: rest => f start a :: mapOffsets size f (start + size a) rest

theorem map_mapOffsets {size : α → Nat} {f : Nat → α → β} {g : β → γ} {g' : α → γ} {l : List α}
    (h : ∀ a ∈ l, ∀ start, g (f start a) = g' a) (start : Nat) :
    (mapOffsets size f start l).map g = l.map g' := by
  induction l generalizing start with
  | nil => rfl
  | cons a rest ih =>
    rw [mapOffsets, List.map_cons, List.map_cons, h a (by simp),
      ih fun b mem => h b (by simp [mem])]

theorem map_mapOffsets_comp (size : α → Nat) (f : Nat → α → β) (g : β → γ) (start : Nat)
    (l : List α) :
    (mapOffsets size f start l).map g = mapOffsets size (fun start a => g (f start a)) start l := by
  induction l generalizing start with
  | nil => rfl
  | cons a rest ih => rw [mapOffsets, mapOffsets, List.map_cons, ih]

theorem mapOffsets_append (size : α → Nat) (f : Nat → α → β) (start : Nat) (l r : List α) :
    mapOffsets size f start (l ++ r) =
      mapOffsets size f start l ++ mapOffsets size f (start + (l.map size).sum) r := by
  induction l generalizing start with
  | nil => rfl
  | cons a rest ih =>
    rw [List.cons_append, mapOffsets, mapOffsets, ih, List.map_cons, List.sum_cons, Nat.add_assoc]
    rfl

theorem mapOffsets_mapOffsets {size : α → Nat} {f g : Nat → α → α}
    (keeps : ∀ a start, size (f start a) = size a) (l : List α) (start : Nat) :
    mapOffsets size g start (mapOffsets size f start l) =
      mapOffsets size (fun start a => g start (f start a)) start l := by
  induction l generalizing start with
  | nil => rfl
  | cons a rest ih => rw [mapOffsets, mapOffsets, mapOffsets, keeps, ih]

theorem forall_mem_mapOffsets {size : α → Nat} {f : Nat → α → β} {P : β → Prop} {l : List α}
    (each : ∀ a ∈ l, ∀ start, P (f start a)) (start : Nat) :
    ∀ b ∈ mapOffsets size f start l, P b := by
  induction l generalizing start with
  | nil => exact nofun
  | cons a rest ih =>
    rw [mapOffsets, List.forall_mem_cons]
    exact ⟨each a (by simp) start, ih (fun b mem => each b (by simp [mem])) (start + size a)⟩

theorem length_mapOffsets (size : α → Nat) (f : Nat → α → β) (start : Nat) (l : List α) :
    (mapOffsets size f start l).length = l.length := by
  induction l generalizing start with
  | nil => rfl
  | cons a rest ih => rw [mapOffsets, List.length_cons, List.length_cons, ih]

theorem mapOffsets_congr_size {size size' : α → Nat} {f : Nat → α → β} {l : List α}
    (h : ∀ a ∈ l, size a = size' a) (start : Nat) :
    mapOffsets size f start l = mapOffsets size' f start l := by
  induction l generalizing start with
  | nil => rfl
  | cons a rest ih =>
    rw [mapOffsets, mapOffsets, h a (by simp), ih fun b mem => h b (by simp [mem])]

/-! ### Streams -/

/-- A stream over elements at their offsets has the values of the slots of these, if for each
element it has.  What is needed of the elements yet to come is `inv`. -/
theorem flatMap_mapOffsets {size : α → Nat} {f : Nat → α → β} {slots : Nat → α → List γ}
    {stream : β → List δ} {value : γ → δ} (inv : Nat → List α → Prop)
    (step : ∀ a rest start, inv start (a :: rest) →
      stream (f start a) = (slots start a).map value ∧ inv (start + size a) rest)
    {l : List α} {start : Nat} (h : inv start l) :
    (mapOffsets size f start l).flatMap stream =
      (mapOffsets size slots start l).flatten.map value := by
  induction l generalizing start with
  | nil => rfl
  | cons a rest ih =>
    obtain ⟨here, later⟩ := step a rest start h
    rw [mapOffsets, mapOffsets, List.flatMap_cons, List.flatten_cons, List.map_append, here,
      ih later]

/-- What holds of the slots of every element at an offset within the whole holds of all slots. -/
theorem forall_mem_flatten_mapOffsets {size : α → Nat} {slots : Nat → α → List γ} {P : γ → Prop}
    {n : Nat} {l : List α}
    (each : ∀ a ∈ l, ∀ start, start + size a ≤ n → ∀ s ∈ slots start a, P s) (start : Nat)
    (enough : start + (l.map size).sum ≤ n) :
    ∀ s ∈ (mapOffsets size slots start l).flatten, P s := by
  induction l generalizing start with
  | nil => exact nofun
  | cons a rest ih =>
    rw [List.map_cons, List.sum_cons] at enough
    rw [mapOffsets, List.flatten_cons]
    refine List.forall_mem_append.2 ⟨each a (by simp) start (by omega), ?_⟩
    exact ih (fun b mem => each b (by simp [mem])) (start + size a) (by omega)

theorem filterMap_mapOffsets {size : α → Nat} {slots : Nat → α → List γ}
    {position : γ → Option Nat} {l : List α}
    (each : ∀ a ∈ l, ∀ start, (slots start a).filterMap position = List.range' start (size a))
    (start : Nat) :
    (mapOffsets size slots start l).flatten.filterMap position =
      List.range' start (l.map size).sum := by
  induction l generalizing start with
  | nil => rfl
  | cons a rest ih =>
    rw [mapOffsets, List.flatten_cons, List.filterMap_append, each a (by simp),
      ih fun b mem => each b (by simp [mem]), List.map_cons, List.sum_cons]
    exact List.range'_append_1

end

/-! ## Dealing out -/

/-- Dealing out is a map over the offsets, if each element's share is what its offset says. -/
theorem dealOut_drop {α β : Type} {place : α → List β → Option (α × List β)} {size : α → Nat}
    {f : Nat → α → α} {values : List β}
    (share : ∀ a start, start + size a ≤ values.length →
      place a (values.drop start) = some (f start a, values.drop (start + size a)))
    (l : List α) (start : Nat) (enough : start + (l.map size).sum ≤ values.length) :
    dealOut place l (values.drop start) =
      some (mapOffsets size f start l, values.drop (start + (l.map size).sum)) := by
  induction l generalizing start with
  | nil => simp [dealOut, mapOffsets]
  | cons a rest ih =>
    rw [List.map_cons, List.sum_cons] at enough
    rw [dealOut, share a start (by omega)]
    simp only [Option.bind_eq_bind, Option.bind_some]
    rw [ih (start + size a) (by omega)]
    simp [mapOffsets, Nat.add_assoc]

/-! ## Shares of morae and pauses -/

/-- The value at a position. -/
def valueAt (values : List Float32) (position : Nat) : Float32 := values.getD position 0

theorem drop_eq_valueAt_cons {values : List Float32} {start : Nat} (h : start < values.length) :
    values.drop start = valueAt values start :: values.drop (start + 1) := by
  rw [List.drop_eq_getElem_cons h, valueAt, List.getD_eq_getElem?_getD, List.getElem?_eq_getElem h,
    Option.getD_some]

namespace Mora

/-- The position of the vowel of a mora whose first phoneme is at `start`. -/
def vowelAt (start : Nat) (m : Mora) : Nat := if m.consonant.isSome then start + 1 else start

/-- The mora at `start` with the lengths at its positions. -/
def lengthsAt (values : List Float32) (start : Nat) (m : Mora) : Mora :=
  { m with
    consonantLength :=
      if m.consonant.isSome then some (valueAt values start) else m.consonantLength
    vowelLength := valueAt values (m.vowelAt start) }

/-- The mora at `start` with the pitch at its vowel. -/
def pitchAt (values : List Float32) (start : Nat) (m : Mora) : Mora :=
  { m with pitch := if isVoiceless m.vowel then 0 else valueAt values (m.vowelAt start) }

/-- The pause at `start` with the length there. -/
def pauseLengthAt (values : List Float32) (start : Nat) (m : Mora) : Mora :=
  { m with vowelLength := valueAt values start }

/-- The pause without pitch. -/
def silent (m : Mora) : Mora := { m with pitch := 0 }

variable {values : List Float32} {start : Nat}

theorem placeLengths_drop (m : Mora) (h : start + m.phonemeCount ≤ values.length) :
    m.placeLengths (values.drop start) =
      some (m.lengthsAt values start, values.drop (start + m.phonemeCount)) := by
  cases hc : m.consonant with
  | none =>
    rw [phonemeCount_of_bare hc] at h ⊢
    rw [drop_eq_valueAt_cons h]
    simp [placeLengths, lengthsAt, vowelAt, hc]
  | some c =>
    rw [phonemeCount_of_consonant hc] at h ⊢
    rw [drop_eq_valueAt_cons (by omega), drop_eq_valueAt_cons h]
    simp [placeLengths, lengthsAt, vowelAt, hc]

theorem placePitch_drop (m : Mora) (h : start + m.phonemeCount ≤ values.length) :
    m.placePitch (values.drop start) =
      some (m.pitchAt values start, values.drop (start + m.phonemeCount)) := by
  cases hc : m.consonant with
  | none =>
    rw [phonemeCount_of_bare hc] at h ⊢
    rw [drop_eq_valueAt_cons h]
    simp [placePitch, pitchAt, vowelAt, hc]
  | some c =>
    rw [phonemeCount_of_consonant hc] at h ⊢
    rw [drop_eq_valueAt_cons (by omega), drop_eq_valueAt_cons h]
    simp [placePitch, pitchAt, vowelAt, hc]

theorem placePauseLength_drop (m : Mora) (h : start < values.length) :
    m.placePauseLength (values.drop start) =
      some (m.pauseLengthAt values start, values.drop (start + 1)) := by
  rw [drop_eq_valueAt_cons h]
  rfl

theorem placePausePitch_drop (m : Mora) (h : start < values.length) :
    m.placePausePitch (values.drop start) = some (m.silent, values.drop (start + 1)) := by
  rw [drop_eq_valueAt_cons h]
  rfl

end Mora

/-! ## Shares of phrases -/

namespace AccentPhrase

/-- How many values the phrase takes. -/
def shareCount (p : AccentPhrase) : Nat :=
  (p.moras.map Mora.phonemeCount).sum + p.pause.toList.length

/-- The phrase at `start` with its morae and its pause placed by their offsets. -/
def placedAt (mora pause : Nat → Mora → Mora) (start : Nat) (p : AccentPhrase) : AccentPhrase :=
  { p with
    moras := mapOffsets Mora.phonemeCount mora start p.moras
    pause := p.pause.map (pause (start + (p.moras.map Mora.phonemeCount).sum)) }

/-- The phrase at `start` with the lengths at its positions. -/
def lengthsAt (values : List Float32) : Nat → AccentPhrase → AccentPhrase :=
  placedAt (Mora.lengthsAt values) (Mora.pauseLengthAt values)

/-- The phrase at `start` with the pitches at its vowels. -/
def pitchesAt (values : List Float32) : Nat → AccentPhrase → AccentPhrase :=
  placedAt (Mora.pitchAt values) fun _ => Mora.silent

theorem shareCount_le_phonemeCount (p : AccentPhrase) : p.shareCount ≤ p.phonemeCount := by
  rw [shareCount, phonemeCount_eq_sum]
  cases h : p.pause with
  | none => simp
  | some m =>
    have := m.phonemeCount_pos
    simp
    omega

theorem shareCount_eq_phonemeCount {p : AccentPhrase} (h : p.HasBarePause) :
    p.shareCount = p.phonemeCount := by
  rw [shareCount, phonemeCount_eq_sum]
  cases hp : p.pause with
  | none => simp
  | some m => simp [Mora.phonemeCount_of_bare (h m hp)]

theorem map_phonemeCount_lengthsAt (values : List Float32) (start : Nat) (p : AccentPhrase) :
    (p.lengthsAt values start).moras.map Mora.phonemeCount = p.moras.map Mora.phonemeCount :=
  map_mapOffsets (by intro m _ _; rfl) start

theorem phonemeCount_lengthsAt (values : List Float32) (start : Nat) (p : AccentPhrase) :
    (p.lengthsAt values start).phonemeCount = p.phonemeCount := by
  rw [phonemeCount_eq_sum, phonemeCount_eq_sum, map_phonemeCount_lengthsAt]
  congr 2
  unfold lengthsAt placedAt
  cases p.pause <;> rfl

theorem shareCount_lengthsAt (values : List Float32) (start : Nat) (p : AccentPhrase) :
    (p.lengthsAt values start).shareCount = p.shareCount := by
  rw [shareCount, shareCount, map_phonemeCount_lengthsAt]
  unfold lengthsAt placedAt
  cases p.pause <;> rfl

section

variable {values : List Float32} {mora pause : Mora → List Float32 → Option (Mora × List Float32)}
  {moraAt pauseAt : Nat → Mora → Mora}

theorem place_drop
    (moraShare : ∀ m start, start + m.phonemeCount ≤ values.length →
      mora m (values.drop start) = some (moraAt start m, values.drop (start + m.phonemeCount)))
    (pauseShare : ∀ m start, start < values.length →
      pause m (values.drop start) = some (pauseAt start m, values.drop (start + 1)))
    (p : AccentPhrase) (start : Nat) (enough : start + p.shareCount ≤ values.length) :
    p.place mora pause (values.drop start) =
      some (p.placedAt moraAt pauseAt start, values.drop (start + p.shareCount)) := by
  rw [shareCount] at enough ⊢
  rw [place, dealOut_drop moraShare p.moras start (by omega)]
  cases hp : p.pause with
  | none => simp [placedAt, hp]
  | some m =>
    rw [hp, Option.toList_some, List.length_singleton] at enough
    have share := pauseShare m (start + (p.moras.map Mora.phonemeCount).sum) (by omega)
    simp [placedAt, hp, share, Nat.add_assoc]

end

theorem placeLengths_drop {values : List Float32} (p : AccentPhrase) (start : Nat)
    (enough : start + p.shareCount ≤ values.length) :
    p.placeLengths (values.drop start) =
      some (p.lengthsAt values start, values.drop (start + p.shareCount)) :=
  place_drop (fun m _ => m.placeLengths_drop) (fun m _ => m.placePauseLength_drop) p start enough

theorem placePitches_drop {values : List Float32} (p : AccentPhrase) (start : Nat)
    (enough : start + p.shareCount ≤ values.length) :
    p.placePitches (values.drop start) =
      some (p.pitchesAt values start, values.drop (start + p.shareCount)) :=
  place_drop (fun m _ => m.placePitch_drop) (fun m _ => m.placePausePitch_drop) p start enough

end AccentPhrase

/-! ## All phrases -/

theorem sum_shareCount_le (phrases : List AccentPhrase) :
    (phrases.map AccentPhrase.shareCount).sum ≤ phonemeTotal phrases := by
  induction phrases with
  | nil => exact Nat.le_refl 0
  | cons p rest ih =>
    have head := p.shareCount_le_phonemeCount
    rw [phonemeTotal_eq_sum] at ih ⊢
    simp only [List.map_cons, List.sum_cons]
    omega

theorem placeValues_eq {what : String}
    {place : AccentPhrase → List Float32 → Option (AccentPhrase × List Float32)}
    {placeAt : Nat → AccentPhrase → AccentPhrase} {values : List Float32}
    (share : ∀ p start, start + p.shareCount ≤ values.length →
      place p (values.drop start) = some (placeAt start p, values.drop (start + p.shareCount)))
    (phrases : List AccentPhrase) (aligned : values.length = phonemeTotal phrases) :
    placeValues what place phrases values =
      .ok (mapOffsets AccentPhrase.shareCount placeAt 0 phrases) := by
  have enough := sum_shareCount_le phrases
  have dealt := dealOut_drop share phrases 0 (by omega)
  rw [List.drop_zero] at dealt
  simp [placeValues, aligned, dealt]

theorem placeValues_eq_ok_iff {what : String}
    {place : AccentPhrase → List Float32 → Option (AccentPhrase × List Float32)}
    {placeAt : Nat → AccentPhrase → AccentPhrase} {values : List Float32}
    (share : ∀ p start, start + p.shareCount ≤ values.length →
      place p (values.drop start) = some (placeAt start p, values.drop (start + p.shareCount)))
    {phrases placed : List AccentPhrase} :
    placeValues what place phrases values = .ok placed ↔
      values.length = phonemeTotal phrases ∧
      placed = mapOffsets AccentPhrase.shareCount placeAt 0 phrases := by
  by_cases aligned : values.length = phonemeTotal phrases
  · rw [placeValues_eq share phrases aligned]
    simp [aligned, eq_comm]
  · simp [placeValues, aligned]

theorem withLengths_eq_ok_iff {phrases placed : List AccentPhrase} {values : List Float32} :
    withLengths phrases values = .ok placed ↔
      values.length = phonemeTotal phrases ∧
      placed = mapOffsets AccentPhrase.shareCount (AccentPhrase.lengthsAt values) 0 phrases :=
  placeValues_eq_ok_iff fun p start => p.placeLengths_drop start

theorem phonemeTotal_of_withLengths {phrases placed : List AccentPhrase} {values : List Float32}
    (h : withLengths phrases values = .ok placed) : phonemeTotal placed = phonemeTotal phrases := by
  obtain ⟨-, rfl⟩ := withLengths_eq_ok_iff.1 h
  rw [phonemeTotal_eq_sum, phonemeTotal_eq_sum]
  rw [map_mapOffsets fun p _ start => p.phonemeCount_lengthsAt values start]

theorem withPitches_eq_ok_iff {phrases placed : List AccentPhrase} {values : List Float32} :
    withPitches phrases values = .ok placed ↔
      values.length = phonemeTotal phrases ∧
      placed = mapOffsets AccentPhrase.shareCount (AccentPhrase.pitchesAt values) 0 phrases :=
  placeValues_eq_ok_iff fun p start => p.placePitches_drop start

end KanaVoice
