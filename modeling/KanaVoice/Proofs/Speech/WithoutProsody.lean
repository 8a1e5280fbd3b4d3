import KanaVoice.Inference.Forward
import KanaVoice.Proofs.Speech.Spoken
set_option autoImplicit false

/-!
# Prosody apart from the symbols

The symbols that the models are given of phrases do not depend on any length or pitch, so they are
those of the phrases without prosody.  Placing lengths and placing pitches change nothing but
prosody, and neither changes what the other places.
-/

namespace KanaVoice

/-! ## Phrases without prosody -/

/-- The mora without its lengths and its pitch. -/
def Mora.withoutProsody (m : Mora) : Mora :=
  { m with consonantLength := none, vowelLength := 0, pitch := 0 }

/-- The phrase without lengths and pitches. -/
def AccentPhrase.withoutProsody (p : AccentPhrase) : AccentPhrase :=
  { p with
    moras := p.moras.map Mora.withoutProsody
    pause := p.pause.map Mora.withoutProsody }

/-- The phrases differ in nothing but lengths and pitches. -/
def SameSymbols (phrases others : List AccentPhrase) : Prop :=
  phrases.map AccentPhrase.withoutProsody = others.map AccentPhrase.withoutProsody

/-! ## Symbols -/

theorem AccentPhrase.flatten_withoutProsody (p : AccentPhrase) :
    p.withoutProsody.flatten = p.flatten.map Mora.withoutProsody := by
  unfold flatten withoutProsody
  rw [List.map_append]
  cases p.pause <;> rfl

theorem flattenMoras_withoutProsody (phrases : List AccentPhrase) :
    flattenMoras (phrases.map AccentPhrase.withoutProsody) =
      (flattenMoras phrases).map Mora.withoutProsody := by
  unfold flattenMoras
  rw [List.flatMap_map, List.map_flatMap]
  simp only [AccentPhrase.flatten_withoutProsody]

theorem phonemeSymbols_withoutProsody (moras : List Mora) :
    phonemeSymbols (moras.map Mora.withoutProsody) = phonemeSymbols moras := by
  unfold phonemeSymbols
  rw [List.flatMap_map]
  rfl

namespace AccentPhrase

theorem openMarks_withoutProsody (p : AccentPhrase) :
    p.withoutProsody.openMarks = p.openMarks := by
  have same (m : Mora) (index : Nat) :
      p.withoutProsody.moraMarks m.withoutProsody index = p.moraMarks m index := by
    unfold moraMarks vowelMark withoutProsody
    rw [List.length_map]
    rfl
  have moras : (p.withoutProsody.moras.mapIdx fun index m => p.withoutProsody.moraMarks m index) =
      p.moras.mapIdx fun index m => p.moraMarks m index := by
    apply List.ext_getElem?
    intro index
    have mora : p.withoutProsody.moras[index]? = p.moras[index]?.map Mora.withoutProsody :=
      List.getElem?_map
    rw [List.getElem?_mapIdx, List.getElem?_mapIdx, mora, Option.map_map]
    simp only [Function.comp_def, same]
  rw [openMarks, openMarks, moras]
  congr 2
  unfold withoutProsody
  rw [Option.isSome_map]

theorem marks_withoutProsody (p : AccentPhrase) : p.withoutProsody.marks = p.marks := by
  rw [marks, marks, openMarks_withoutProsody]
  rfl

end AccentPhrase

theorem accentSymbols_withoutProsody (phrases : List AccentPhrase) :
    accentSymbols (phrases.map AccentPhrase.withoutProsody) = accentSymbols phrases := by
  unfold accentSymbols accentMarks
  rw [List.flatMap_map]
  simp only [AccentPhrase.marks_withoutProsody]

namespace SameSymbols

variable {phrases others : List AccentPhrase}

/-- What is the same of a phrase without prosody is the same of phrases that differ in nothing
else. -/
theorem map_eq {α : Type} {f : AccentPhrase → α} (h : SameSymbols phrases others)
    (keeps : ∀ p, f p.withoutProsody = f p) : phrases.map f = others.map f := by
  have erased : f ∘ AccentPhrase.withoutProsody = f := funext keeps
  rw [← erased, ← List.map_map, h, List.map_map]

theorem phonemes (h : SameSymbols phrases others) :
    phonemeSymbols (flattenMoras phrases) = phonemeSymbols (flattenMoras others) := by
  rw [← phonemeSymbols_withoutProsody, ← flattenMoras_withoutProsody, h,
    flattenMoras_withoutProsody, phonemeSymbols_withoutProsody]

theorem accents (h : SameSymbols phrases others) :
    accentSymbols phrases = accentSymbols others := by
  rw [← accentSymbols_withoutProsody, h, accentSymbols_withoutProsody]

theorem phonemeTotal (h : SameSymbols phrases others) :
    phonemeTotal phrases = phonemeTotal others := by
  rw [← sum_phonemeCount_flattenMoras, ← sum_phonemeCount_flattenMoras, ← length_phonemeSymbols,
    ← length_phonemeSymbols, h.phonemes]

end SameSymbols

/-! ## Placements -/

namespace Mora

variable (values : List Float32) (start : Nat) (m : Mora)

theorem phonemeCount_lengthsAt : (m.lengthsAt values start).phonemeCount = m.phonemeCount := rfl

theorem phonemeCount_pitchAt : (m.pitchAt values start).phonemeCount = m.phonemeCount := rfl

theorem lengthsAt_lengthsAt :
    (m.lengthsAt values start).lengthsAt values start = m.lengthsAt values start := by
  cases hc : m.consonant <;> simp [lengthsAt, vowelAt, hc]

theorem lengthsAt_pitchAt (pitches : List Float32) :
    (m.pitchAt pitches start).lengthsAt values start =
      (m.lengthsAt values start).pitchAt pitches start := rfl

end Mora

namespace AccentPhrase

variable {mora pause mora' pause' : Nat → Mora → Mora}

/-- The phrase with a change made to its morae and to its pause. -/
def mapMoras (change : Mora → Mora) (p : AccentPhrase) : AccentPhrase :=
  { p with moras := p.moras.map change, pause := p.pause.map change }

/-- What is placed cannot be seen after a change that undoes it on each mora. -/
theorem mapMoras_placedAt {change : Mora → Mora}
    (moras : ∀ start m, change (mora start m) = change m)
    (pauses : ∀ start m, change (pause start m) = change m) (start : Nat) (p : AccentPhrase) :
    (p.placedAt mora pause start).mapMoras change = p.mapMoras change := by
  unfold placedAt mapMoras
  simp only [Option.map_map, Function.comp_def, pauses]
  rw [map_mapOffsets fun m _ start => moras start m]

theorem withoutProsody_placedAt
    (moras : ∀ start m, (mora start m).withoutProsody = m.withoutProsody)
    (pauses : ∀ start m, (pause start m).withoutProsody = m.withoutProsody) (start : Nat)
    (p : AccentPhrase) : (p.placedAt mora pause start).withoutProsody = p.withoutProsody :=
  mapMoras_placedAt moras pauses start p

theorem withoutProsody_lengthsAt (values : List Float32) (start : Nat) (p : AccentPhrase) :
    (p.lengthsAt values start).withoutProsody = p.withoutProsody := by
  apply withoutProsody_placedAt
  · intro start m
    rfl
  · intro start m
    rfl

theorem withoutProsody_pitchesAt (values : List Float32) (start : Nat) (p : AccentPhrase) :
    (p.pitchesAt values start).withoutProsody = p.withoutProsody := by
  apply withoutProsody_placedAt
  · intro start m
    rfl
  · intro start m
    rfl

/-- Placing twice is placing both. -/
theorem placedAt_placedAt (keeps : ∀ start m, (mora start m).phonemeCount = m.phonemeCount)
    (start : Nat) (p : AccentPhrase) :
    (p.placedAt mora pause start).placedAt mora' pause' start =
      p.placedAt (fun start m => mora' start (mora start m))
        (fun start m => pause' start (pause start m)) start := by
  unfold placedAt
  simp only [Option.map_map, Function.comp_def]
  rw [mapOffsets_mapOffsets fun m start => keeps start m,
    map_mapOffsets fun m _ start => keeps start m]

theorem shareCount_pitchesAt (values : List Float32) (start : Nat) (p : AccentPhrase) :
    (p.pitchesAt values start).shareCount = p.shareCount := by
  have moras : (p.pitchesAt values start).moras.map Mora.phonemeCount =
      p.moras.map Mora.phonemeCount := map_mapOffsets (by intro m _ _; rfl) start
  rw [shareCount, shareCount, moras]
  unfold pitchesAt placedAt
  cases p.pause <;> rfl

theorem lengthsAt_lengthsAt (values : List Float32) (start : Nat) (p : AccentPhrase) :
    (p.lengthsAt values start).lengthsAt values start = p.lengthsAt values start := by
  unfold lengthsAt
  rw [placedAt_placedAt (Mora.phonemeCount_lengthsAt values)]
  simp only [Mora.lengthsAt_lengthsAt]
  rfl

theorem pitchesAt_pitchesAt (values : List Float32) (start : Nat) (p : AccentPhrase) :
    (p.pitchesAt values start).pitchesAt values start = p.pitchesAt values start := by
  unfold pitchesAt
  rw [placedAt_placedAt (Mora.phonemeCount_pitchAt values)]
  rfl

theorem lengthsAt_pitchesAt (durations pitches : List Float32) (start : Nat) (p : AccentPhrase) :
    (p.pitchesAt pitches start).lengthsAt durations start =
      (p.lengthsAt durations start).pitchesAt pitches start := by
  unfold pitchesAt lengthsAt
  rw [placedAt_placedAt (Mora.phonemeCount_pitchAt pitches),
    placedAt_placedAt (Mora.phonemeCount_lengthsAt durations)]
  simp only [Mora.lengthsAt_pitchAt]
  rfl

theorem withoutProsody_predictedAt (pitches durations : List Float32) (start : Nat)
    (p : AccentPhrase) : (p.predictedAt pitches durations start).withoutProsody =
      p.withoutProsody := by
  rw [predictedAt, withoutProsody_pitchesAt, withoutProsody_lengthsAt]

theorem shareCount_predictedAt (pitches durations : List Float32) (start : Nat)
    (p : AccentPhrase) : (p.predictedAt pitches durations start).shareCount = p.shareCount := by
  rw [predictedAt, shareCount_pitchesAt, shareCount_lengthsAt]

theorem predictedAt_predictedAt (pitches durations : List Float32) (start : Nat)
    (p : AccentPhrase) :
    (p.predictedAt pitches durations start).predictedAt pitches durations start =
      p.predictedAt pitches durations start := by
  rw [predictedAt, predictedAt, lengthsAt_pitchesAt, lengthsAt_lengthsAt, pitchesAt_pitchesAt]

end AccentPhrase

/-! ## All phrases -/

section

variable {phrases placed : List AccentPhrase} {values : List Float32}

theorem sameSymbols_mapOffsets {f : Nat → AccentPhrase → AccentPhrase}
    (keeps : ∀ start p, (f start p).withoutProsody = p.withoutProsody)
    (phrases : List AccentPhrase) :
    SameSymbols (mapOffsets AccentPhrase.shareCount f 0 phrases) phrases :=
  map_mapOffsets (fun p _ start => keeps start p) 0

theorem sameSymbols_of_withLengths (h : withLengths phrases values = .ok placed) :
    SameSymbols placed phrases := by
  obtain ⟨-, rfl⟩ := withLengths_eq_ok_iff.1 h
  exact sameSymbols_mapOffsets (AccentPhrase.withoutProsody_lengthsAt values) phrases

theorem sameSymbols_of_withPitches (h : withPitches phrases values = .ok placed) :
    SameSymbols placed phrases := by
  obtain ⟨-, rfl⟩ := withPitches_eq_ok_iff.1 h
  exact sameSymbols_mapOffsets (AccentPhrase.withoutProsody_pitchesAt values) phrases

end

/-- The prediction has a pitch and a length for each phoneme of the phrases. -/
structure Prediction.Fits (p : Prediction) (phrases : List AccentPhrase) : Prop where
  pitches : p.pitches.length = phonemeTotal phrases
  durations : p.durations.length = phonemeTotal phrases

/-- The phrases with the lengths of a prediction and then its pitches. -/
def withPrediction (p : Prediction) (phrases : List AccentPhrase) :
    Except Fault (List AccentPhrase) := do
  let timed ← withLengths phrases p.durations
  withPitches timed p.pitches

theorem sameSymbols_of_withPrediction {p : Prediction} {phrases placed : List AccentPhrase}
    (h : withPrediction p phrases = .ok placed) : SameSymbols placed phrases := by
  obtain ⟨timed, lengths, pitches⟩ := except_bind_eq_ok_iff.1 h
  exact (sameSymbols_of_withPitches pitches).trans (sameSymbols_of_withLengths lengths)

namespace Prediction.Fits

variable {p : Prediction} {phrases placed : List AccentPhrase}

theorem of_sameSymbols (h : p.Fits phrases) (same : SameSymbols placed phrases) :
    p.Fits placed where
  pitches := h.pitches.trans same.phonemeTotal.symm
  durations := h.durations.trans same.phonemeTotal.symm

theorem withLengths (h : p.Fits phrases) :
    withLengths phrases p.durations =
      .ok (mapOffsets AccentPhrase.shareCount (AccentPhrase.lengthsAt p.durations) 0 phrases) :=
  withLengths_eq_ok_iff.2 ⟨h.durations, rfl⟩

theorem withPitches (h : p.Fits phrases) :
    withPitches phrases p.pitches =
      .ok (mapOffsets AccentPhrase.shareCount (AccentPhrase.pitchesAt p.pitches) 0 phrases) :=
  withPitches_eq_ok_iff.2 ⟨h.pitches, rfl⟩

theorem withPrediction (h : p.Fits phrases) :
    withPrediction p phrases =
      .ok (mapOffsets AccentPhrase.shareCount (AccentPhrase.predictedAt p.pitches p.durations) 0
        phrases) := by
  have timed := h.of_sameSymbols (sameSymbols_of_withLengths h.withLengths)
  rw [KanaVoice.withPrediction, h.withLengths, except_ok_bind, timed.withPitches]
  rw [mapOffsets_mapOffsets fun q start => q.shareCount_lengthsAt p.durations start]
  rfl

/-- The pitches may as well be placed before the lengths. -/
theorem withLengths_withPitches (h : p.Fits phrases) :
    (do
      let tuned ← KanaVoice.withPitches phrases p.pitches
      KanaVoice.withLengths tuned p.durations) = KanaVoice.withPrediction p phrases := by
  have tuned := h.of_sameSymbols (sameSymbols_of_withPitches h.withPitches)
  rw [h.withPrediction, h.withPitches, except_ok_bind, tuned.withLengths]
  rw [mapOffsets_mapOffsets fun q start => q.shareCount_pitchesAt p.pitches start]
  simp only [AccentPhrase.lengthsAt_pitchesAt]
  rfl

/-- Placing a prediction again changes nothing. -/
theorem withPrediction_again (h : p.Fits phrases)
    (done : KanaVoice.withPrediction p phrases = .ok placed) :
    KanaVoice.withPrediction p placed = .ok placed := by
  rw [h.withPrediction, Except.ok.injEq] at done
  subst done
  have again := h.of_sameSymbols
    (sameSymbols_mapOffsets (AccentPhrase.withoutProsody_predictedAt p.pitches p.durations) phrases)
  rw [again.withPrediction,
    mapOffsets_mapOffsets fun q start => q.shareCount_predictedAt p.pitches p.durations start]
  simp only [AccentPhrase.predictedAt_predictedAt]

end Prediction.Fits

end KanaVoice
