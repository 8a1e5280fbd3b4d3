import KanaVoice.Proofs.Single.Unit
import KanaVoice.Proofs.Symbol.Encoding
import KanaVoice.Proofs.Speech.Slots
set_option autoImplicit false

/-!
# Streams of spoken phrases

Once predicted lengths and pitches are placed and the rises are put in, the phonemes, the pitches
and the lengths of the phrases are those of their slots.
-/

namespace KanaVoice

/-- The mora at `start` with its lengths and its pitch. -/
def Mora.predictedAt (pitches durations : List Float32) (start : Nat) (m : Mora) : Mora :=
  (m.lengthsAt durations start).pitchAt pitches start

namespace AccentPhrase

/-- The phrase at `start` with its lengths and pitches. -/
def predictedAt (pitches durations : List Float32) (start : Nat) (p : AccentPhrase) :
    AccentPhrase :=
  (p.lengthsAt durations start).pitchesAt pitches start

theorem moras_predictedAt (pitches durations : List Float32) (start : Nat) (p : AccentPhrase) :
    (p.predictedAt pitches durations start).moras =
      mapOffsets Mora.phonemeCount (Mora.predictedAt pitches durations) start p.moras := by
  have keeps (m : Mora) (start : Nat) : (m.lengthsAt durations start).phonemeCount =
      m.phonemeCount := rfl
  exact mapOffsets_mapOffsets keeps p.moras start

theorem pause_predictedAt (pitches durations : List Float32) (start : Nat) (p : AccentPhrase) :
    (p.predictedAt pitches durations start).pause =
      p.pause.map fun m => (m.pauseLengthAt durations
        (start + (p.moras.map Mora.phonemeCount).sum)).silent := by
  show Option.map _ (Option.map _ p.pause) = _
  rw [map_phonemeCount_lengthsAt, Option.map_map]
  rfl

/-- The rise of a predicted phrase is that of its slots. -/
theorem upspeak?_predictedAt (pitches durations : List Float32) (start : Nat) (p : AccentPhrase) :
    (p.predictedAt pitches durations start).upspeak? = none ∧ p.rises pitches start = [] ∨
    ∃ init last, p.moras = init ++ [last] ∧
      ∃ position, position = start + (init.map Mora.phonemeCount).sum ∧
        ¬ isVoiceless last.vowel ∧
        (p.predictedAt pitches durations start).upspeak? =
          some (last.predictedAt pitches durations position).upspeak ∧
        p.rises pitches start = [.rise (last.vowelAt position)] := by
  have moras := p.moras_predictedAt pitches durations start
  rcases List.eq_nil_or_concat p.moras with none | ⟨init, last, same⟩
  · left
    rw [none] at moras
    simp [upspeak?, moras, rises, lastSlot?, none, mapOffsets]
  · rw [List.concat_eq_append] at same
    generalize here : start + (init.map Mora.phonemeCount).sum = position
    have vowel : start + (p.moras.map Mora.phonemeCount).sum - 1 = last.vowelAt position := by
      rw [same, List.map_append, List.sum_append, List.map_singleton, List.sum_singleton,
        Mora.phonemeCount, Mora.vowelAt, ← here]
      split
      · omega
      · omega
    have lastSlot : p.lastSlot? start =
        some (.phoneme (last.vowelAt position) (last.vowelAt position)
          (!isVoiceless last.vowel)) := by
      rw [lastSlot?, vowel, same, List.getLast?_concat]
      rfl
    have lastMora : (p.predictedAt pitches durations start).moras.getLast? =
        some (last.predictedAt pitches durations position) := by
      rw [moras, same, mapOffsets_append, here, mapOffsets, mapOffsets, List.getLast?_concat]
    have pitch : (last.predictedAt pitches durations position).pitch =
        (Slot.phoneme (last.vowelAt position) (last.vowelAt position)
          (!isVoiceless last.vowel)).pitch pitches := by
      show (if isVoiceless last.vowel then 0 else valueAt pitches (last.vowelAt position)) = _
      cases voiceless : isVoiceless last.vowel <;> simp [Slot.pitch]
    have question : (p.predictedAt pitches durations start).isQuestion = p.isQuestion := rfl
    simp only [upspeak?, rises, lastSlot, lastMora, Option.bind_eq_bind, Option.bind_some, pitch,
      question]
    split
    case isTrue rising =>
      right
      refine ⟨init, last, same, position, here.symm, ?_, rfl, rfl⟩
      intro voiceless
      have silent : ((0 : Float32) != 0) = false := by decide
      simp [Slot.pitch, voiceless, silent] at rising
    case isFalse => exact .inl ⟨rfl, rfl⟩

/-- The phrase at `start` as it is spoken: with its lengths and pitches, and its rise. -/
def spokenAt (pitches durations : List Float32) (start : Nat) (p : AccentPhrase) : AccentPhrase :=
  (p.predictedAt pitches durations start).withUpspeak

section

variable {δ : Type} {pitches durations : List Float32} {stream : Mora → List δ} {value : Slot → δ}

/-- A stream over a spoken phrase has the values of its slots, if over its morae, its rise and its
pause it has. -/
theorem flatMap_flatten_spokenAt {p : AccentPhrase} {start : Nat}
    (moras : (mapOffsets Mora.phonemeCount (Mora.predictedAt pitches durations) start
        p.moras).flatMap stream =
      (mapOffsets Mora.phonemeCount Mora.slots start p.moras).flatten.map value)
    (rise : ∀ init last position, p.moras = init ++ [last] →
      position = start + (init.map Mora.phonemeCount).sum → ¬ isVoiceless last.vowel →
      stream (last.predictedAt pitches durations position).upspeak =
        [value (.rise (last.vowelAt position))])
    (pause : ∀ m ∈ p.pause, ∀ position,
      position = start + (p.moras.map Mora.phonemeCount).sum →
      stream (m.pauseLengthAt durations position).silent =
        [value (.phoneme position position false)]) :
    (p.spokenAt pitches durations start).flatten.flatMap stream =
      (p.slots pitches start).map value := by
  have rises : (p.predictedAt pitches durations start).upspeak?.toList.flatMap stream =
      (p.rises pitches start).map value := by
    rcases p.upspeak?_predictedAt pitches durations start with
      ⟨none, empty⟩ | ⟨init, last, same, position, here, voiced, some, single⟩
    · rw [none, empty]
      rfl
    · rw [some, single]
      simpa using rise init last position same here voiced
  have pauses : ((p.spokenAt pitches durations start).pause.toList).flatMap stream =
      (p.pause.toList.map fun _ => Slot.phoneme (start + (p.moras.map Mora.phonemeCount).sum)
        (start + (p.moras.map Mora.phonemeCount).sum) false).map value := by
    have same : (p.spokenAt pitches durations start).pause = _ :=
      p.pause_predictedAt pitches durations start
    rw [same]
    cases h : p.pause with
    | none => rfl
    | some m => simpa using pause m h _ rfl
  have spoken : (p.spokenAt pitches durations start).moras =
      mapOffsets Mora.phonemeCount (Mora.predictedAt pitches durations) start p.moras ++
        (p.predictedAt pitches durations start).upspeak?.toList := by
    rw [← moras_predictedAt]
    rfl
  rw [flatten, List.flatMap_append, spoken, List.flatMap_append, moras, rises, pauses, slots,
    List.map_append, List.map_append]

end

end AccentPhrase

/-- Phrases as they are spoken. -/
def spoken (pitches durations : List Float32) (phrases : List AccentPhrase) : List AccentPhrase :=
  mapOffsets AccentPhrase.phonemeCount (AccentPhrase.spokenAt pitches durations) 0 phrases

/-- Placing the lengths, then the pitches and then the rises gives the phrases as they are
spoken. -/
theorem withUpspeak_eq_spoken {pitches durations : List Float32}
    {phrases timed placed : List AccentPhrase} (bare : ∀ p ∈ phrases, p.HasBarePause)
    (lengths : withLengths phrases durations = .ok timed)
    (tones : withPitches timed pitches = .ok placed) :
    withUpspeak placed = spoken pitches durations phrases := by
  obtain ⟨-, rfl⟩ := withLengths_eq_ok_iff.1 lengths
  obtain ⟨-, rfl⟩ := withPitches_eq_ok_iff.1 tones
  rw [mapOffsets_mapOffsets fun p start => p.shareCount_lengthsAt durations start, withUpspeak,
    map_mapOffsets_comp,
    mapOffsets_congr_size fun p mem => AccentPhrase.shareCount_eq_phonemeCount (bare p mem)]
  rfl

theorem flatMap_flattenMoras_spoken {δ : Type} {pitches durations : List Float32}
    {stream : Mora → List δ} {value : Slot → δ} (inv : Nat → List AccentPhrase → Prop)
    (step : ∀ p rest start, inv start (p :: rest) →
      (p.spokenAt pitches durations start).flatten.flatMap stream =
        (p.slots pitches start).map value ∧ inv (start + p.phonemeCount) rest)
    {phrases : List AccentPhrase} (h : inv 0 phrases) :
    (flattenMoras (spoken pitches durations phrases)).flatMap stream =
      (slots pitches phrases).map value := by
  rw [flattenMoras, List.flatMap_assoc]
  refine flatMap_mapOffsets inv ?_ h
  exact step

/-! ## Pitches and lengths of slots -/

theorem spreadPitches_one (pitches : List Float32) : spreadPitches 1 pitches = pitches := by
  have same : ((1 : Float32) != 1) = false := by decide
  simp [spreadPitches, same]

/-- In its usual shape a contour has the pitches and the lengths of the morae. -/
theorem contour_usual (moras : List Mora) :
    contour moras {} =
      ⟨moras.flatMap (Mora.shiftedPitches 1), moras.flatMap (Mora.scaledLengths 1)⟩ := by
  have shift : ContourScales.shift {} = 1 := Single.exp2_zero
  have divisor : ContourScales.divisor {} = 1 := by
    unfold ContourScales.divisor
    split <;> rfl
  rw [contour, shift, divisor, spreadPitches_one]

section

variable {pitches durations : List Float32}

theorem Mora.pitches_predictedAt (start : Nat) (m : Mora) :
    (m.predictedAt pitches durations start).shiftedPitches 1 =
      (m.slots start).map (Slot.pitch pitches) := by
  cases h : m.consonant <;> cases voiceless : isVoiceless m.vowel <;>
    simp [shiftedPitches, Single.mul_one, phonemes, predictedAt, lengthsAt, pitchAt, slots, h,
      voiceless, Slot.pitch, vowelAt]

theorem Mora.lengths_predictedAt (start : Nat) (m : Mora) :
    (m.predictedAt pitches durations start).scaledLengths 1 =
      (m.slots start).map (Slot.length durations) := by
  cases h : m.consonant <;>
    simp [scaledLengths, Single.div_one, predictedAt, lengthsAt, pitchAt, slots, h, Slot.length,
      vowelAt]

theorem AccentPhrase.pitches_spokenAt {p : AccentPhrase} (bare : p.HasBarePause) (start : Nat) :
    (p.spokenAt pitches durations start).flatten.flatMap (Mora.shiftedPitches 1) =
      (p.slots pitches start).map (Slot.pitch pitches) := by
  refine flatMap_flatten_spokenAt ?_ ?_ ?_
  · exact flatMap_mapOffsets (fun _ _ => True)
      (fun m _ start _ => ⟨m.pitches_predictedAt start, trivial⟩) trivial
  · intro init last position _ _ voiced
    have vowel : (last.predictedAt pitches durations position).pitch =
        valueAt pitches (last.vowelAt position) := if_neg voiced
    show [upspeakPitch (last.predictedAt pitches durations position).pitch * 1] =
      [(Slot.rise (last.vowelAt position)).pitch pitches]
    rw [vowel, Single.mul_one, Slot.pitch_rise]
  · intro m mem position _
    simp [Mora.shiftedPitches, Single.mul_one, Mora.silent, Mora.phonemes, Mora.pauseLengthAt,
      bare m mem, Slot.pitch]

theorem AccentPhrase.lengths_spokenAt {p : AccentPhrase} (bare : p.HasBarePause) (start : Nat) :
    (p.spokenAt pitches durations start).flatten.flatMap (Mora.scaledLengths 1) =
      (p.slots pitches start).map (Slot.length durations) := by
  refine flatMap_flatten_spokenAt ?_ ?_ ?_
  · exact flatMap_mapOffsets (fun _ _ => True)
      (fun m _ start _ => ⟨m.lengths_predictedAt start, trivial⟩) trivial
  · intro init last position _ _ _
    simp [Mora.scaledLengths, Single.div_one, Mora.upspeak, Slot.length_rise]
  · intro m mem position _
    simp [Mora.scaledLengths, Single.div_one, Mora.silent, Mora.pauseLengthAt, bare m mem,
      Slot.length]

/-- Every slot of spoken phrases has its pitch. -/
theorem pitches_spoken {phrases : List AccentPhrase} (bare : ∀ p ∈ phrases, p.HasBarePause) :
    (flattenMoras (spoken pitches durations phrases)).flatMap (Mora.shiftedPitches 1) =
      (slots pitches phrases).map (Slot.pitch pitches) := by
  refine flatMap_flattenMoras_spoken (fun _ l => ∀ p ∈ l, p.HasBarePause) ?_ bare
  intro p rest start bare
  have each := List.forall_mem_cons.1 bare
  exact ⟨AccentPhrase.pitches_spokenAt each.1 start, each.2⟩

/-- Spoken phrases have a phoneme for each slot. -/
theorem phonemeTotal_spoken {phrases : List AccentPhrase} (bare : ∀ p ∈ phrases, p.HasBarePause) :
    phonemeTotal (spoken pitches durations phrases) = (slots pitches phrases).length := by
  have same : ((flattenMoras (spoken pitches durations phrases)).flatMap
      (Mora.shiftedPitches 1)).length = ((slots pitches phrases).map (Slot.pitch pitches)).length :=
    congrArg List.length (pitches_spoken bare)
  rw [List.length_flatMap, funext (Mora.length_shiftedPitches 1), sum_phonemeCount_flattenMoras,
    List.length_map] at same
  exact same

theorem phonemeTotal_withUpspeak_ne_zero {phrases timed placed : List AccentPhrase}
    (bare : ∀ p ∈ phrases, p.HasBarePause) (lengths : withLengths phrases durations = .ok timed)
    (tones : withPitches timed pitches = .ok placed) (phonemes : phonemeTotal phrases ≠ 0) :
    phonemeTotal (withUpspeak placed) ≠ 0 := by
  rw [withUpspeak_eq_spoken bare lengths tones, phonemeTotal_spoken bare]
  intro empty
  exact slots_ne_nil bare phonemes pitches (List.eq_nil_of_length_eq_zero empty)

/-- Every slot of spoken phrases has its length. -/
theorem lengths_spoken {phrases : List AccentPhrase} (bare : ∀ p ∈ phrases, p.HasBarePause) :
    (flattenMoras (spoken pitches durations phrases)).flatMap (Mora.scaledLengths 1) =
      (slots pitches phrases).map (Slot.length durations) := by
  refine flatMap_flattenMoras_spoken (fun _ l => ∀ p ∈ l, p.HasBarePause) ?_ bare
  intro p rest start bare
  have each := List.forall_mem_cons.1 bare
  exact ⟨AccentPhrase.lengths_spokenAt each.1 start, each.2⟩

end

/-- In their usual shape spoken phrases have the pitches and lengths of their slots. -/
theorem contour_spoken {pitches durations : List Float32} {phrases : List AccentPhrase}
    (bare : ∀ p ∈ phrases, p.HasBarePause) :
    contour (flattenMoras (spoken pitches durations phrases)) {} =
      ⟨(slots pitches phrases).map (Slot.pitch pitches),
        (slots pitches phrases).map (Slot.length durations)⟩ := by
  rw [contour_usual, pitches_spoken bare, lengths_spoken bare]

/-! ## Phonemes of slots -/

section

variable {δ : Type} {f : String → δ} {d : δ} {values : List δ} {pitches durations : List Float32}

/-- From `start` on the values are those of the morae's phonemes, and perhaps more. -/
def ValuesFrom (f : String → δ) (values : List δ) (start : Nat) (moras : List Mora) : Prop :=
  ∃ rest, values.drop start = (phonemeSymbols moras).map f ++ rest

theorem getD_of_drop {rest : List δ} {position : Nat} {value : δ}
    (h : values.drop position = value :: rest) : values.getD position d = value := by
  have found : values[position]? = some value := by
    rw [← List.head?_drop, h]
    rfl
  rw [List.getD_eq_getElem?_getD, found, Option.getD_some]

theorem valuesFrom_append {start : Nat} {first rest : List Mora}
    (h : ValuesFrom f values start (first ++ rest)) :
    ValuesFrom f values start first ∧
      ValuesFrom f values (start + (first.map Mora.phonemeCount).sum) rest := by
  obtain ⟨more, found⟩ := h
  rw [phonemeSymbols, List.flatMap_append, List.map_append, List.append_assoc] at found
  refine ⟨⟨_, found⟩, more, ?_⟩
  have length : (first.map Mora.phonemeCount).sum = ((phonemeSymbols first).map f).length := by
    rw [List.length_map, length_phonemeSymbols]
  rw [← List.drop_drop, found, length]
  exact List.drop_left

theorem Mora.getD_vowelAt {m : Mora} {start : Nat} (h : ValuesFrom f values start [m]) :
    values.getD (m.vowelAt start) d = f m.vowel := by
  obtain ⟨rest, found⟩ := h
  cases hc : m.consonant with
  | none =>
    have here : values.drop (m.vowelAt start) = f m.vowel :: rest := by
      simpa [vowelAt, phonemeSymbols, phonemes, hc] using found
    exact getD_of_drop here
  | some c =>
    have behind := congrArg List.tail found
    rw [List.tail_drop] at behind
    have here : values.drop (m.vowelAt start) = f m.vowel :: rest := by
      simpa [vowelAt, phonemeSymbols, phonemes, hc] using behind
    exact getD_of_drop here

theorem Mora.phonemes_slots {m : Mora} {start : Nat} (h : ValuesFrom f values start [m]) :
    m.phonemes.map f = (m.slots start).map fun s => values.getD s.source d := by
  have vowel : values.getD (m.vowelAt start) d = f m.vowel := getD_vowelAt h
  obtain ⟨rest, found⟩ := h
  cases hc : m.consonant with
  | none => simp [phonemes, slots, hc, Slot.source, vowel, -List.getD_eq_getElem?_getD]
  | some c =>
    have here : values.drop start = f c :: f m.vowel :: rest := by
      simpa [phonemeSymbols, phonemes, hc] using found
    have consonant : values.getD start d = f c := getD_of_drop here
    simp [phonemes, slots, hc, Slot.source, vowel, consonant, -List.getD_eq_getElem?_getD]

theorem AccentPhrase.phonemes_spokenAt {p : AccentPhrase} (bare : p.HasBarePause) {start : Nat}
    (h : ValuesFrom f values start p.flatten) :
    (p.spokenAt pitches durations start).flatten.flatMap (fun m => m.phonemes.map f) =
      (p.slots pitches start).map fun s => values.getD s.source d := by
  obtain ⟨moras, pause⟩ := valuesFrom_append h
  refine flatMap_flatten_spokenAt ?_ ?_ ?_
  · refine flatMap_mapOffsets (ValuesFrom f values) ?_ moras
    intro m rest start found
    change ValuesFrom f values start ([m] ++ rest) at found
    obtain ⟨here, later⟩ := valuesFrom_append found
    exact ⟨Mora.phonemes_slots here, by simpa using later⟩
  · intro init last position same here _
    rw [same] at moras
    have behind := (valuesFrom_append moras).2
    rw [← here] at behind
    have vowel : values.getD (last.vowelAt position) d = f last.vowel := Mora.getD_vowelAt behind
    exact congrArg (fun value => [value]) vowel.symm
  · intro m mem position here
    rw [Option.mem_def.1 mem, ← here] at pause
    have vowel : values.getD (m.vowelAt position) d = f m.vowel := Mora.getD_vowelAt pause
    rw [Mora.vowelAt, bare m mem] at vowel
    simpa [Mora.silent, Mora.pauseLengthAt, Mora.phonemes, bare m mem, Slot.source] using vowel.symm

/-- Every slot of spoken phrases has the phoneme that its source had before the rises were put
in. -/
theorem phonemes_spoken {phrases : List AccentPhrase} (bare : ∀ p ∈ phrases, p.HasBarePause)
    (same : values = (phonemeSymbols (flattenMoras phrases)).map f) :
    (phonemeSymbols (flattenMoras (spoken pitches durations phrases))).map f =
      (slots pitches phrases).map fun s => values.getD s.source d := by
  have whole : ValuesFrom f values 0 (flattenMoras phrases) := ⟨[], by simp [same]⟩
  rw [phonemeSymbols, List.map_flatMap]
  refine flatMap_flattenMoras_spoken (fun start l => (∀ p ∈ l, p.HasBarePause) ∧
    ValuesFrom f values start (flattenMoras l)) ?_ ⟨bare, whole⟩
  rintro p rest start ⟨bare, found⟩
  have each := List.forall_mem_cons.1 bare
  rw [flattenMoras_cons] at found
  obtain ⟨here, later⟩ := valuesFrom_append found
  exact ⟨AccentPhrase.phonemes_spokenAt each.1 here, each.2, later⟩

end

/-- Every slot of spoken phrases has the number of its source. -/
theorem phonemeIds_spoken {symbols : SymbolTable} {phrases : List AccentPhrase} {c c' : Encoding}
    {pitches durations : List Float32} (bare : ∀ p ∈ phrases, p.HasBarePause)
    (before : encode symbols phrases = .ok c)
    (after : encode symbols (spoken pitches durations phrases) = .ok c') :
    c'.phonemeIds = (slots pitches phrases).map fun s => c.phonemeIds.getD s.source 0 := by
  have ids := mapM_eq_ok_iff.1 (encode_eq_ok_iff.1 before).2.1
  have ids' := mapM_eq_ok_iff.1 (encode_eq_ok_iff.1 after).2.1
  have each : (phonemeSymbols (flattenMoras (spoken pitches durations phrases))).map
      (symbols.id .phoneme) = (slots pitches phrases).map fun s =>
        (c.phonemeIds.map .ok).getD s.source (.ok 0) := phonemes_spoken bare ids.symm
  have known (s : Slot) : (c.phonemeIds.map .ok).getD s.source (.ok 0) =
      (.ok (c.phonemeIds.getD s.source 0) : Except Fault Int) := by
    rw [List.getD_eq_getElem?_getD, List.getElem?_map, List.getD_eq_getElem?_getD, Option.getD_map]
  have split : (slots pitches phrases).map (fun s => (.ok (c.phonemeIds.getD s.source 0) :
      Except Fault Int)) = ((slots pitches phrases).map fun s =>
        c.phonemeIds.getD s.source 0).map .ok := by
    rw [List.map_map]
    rfl
  rw [each, funext known, split] at ids'
  exact (List.map_inj_right fun _ _ h => Except.ok.inj h).1 ids'.symm

/-- Once prosody is placed and the rises are put in, an encoding in its usual shape is that of the
slots. -/
theorem encoding_withUpspeak {symbols : SymbolTable} {phrases timed placed : List AccentPhrase}
    {pitches durations : List Float32} {c c' : Encoding} (bare : ∀ p ∈ phrases, p.HasBarePause)
    (lengths : withLengths phrases durations = .ok timed)
    (tones : withPitches timed pitches = .ok placed) (before : encode symbols phrases = .ok c)
    (after : encode symbols (withUpspeak placed) = .ok c') :
    c'.phonemeIds = ((slots pitches phrases).map fun s => c.phonemeIds.getD s.source 0) ∧
      contour c'.moras {} = ⟨(slots pitches phrases).map (Slot.pitch pitches),
        (slots pitches phrases).map (Slot.length durations)⟩ := by
  rw [withUpspeak_eq_spoken bare lengths tones] at after
  refine ⟨phonemeIds_spoken bare before after, ?_⟩
  rw [(encode_eq_ok_iff.1 after).1]
  exact contour_spoken bare

end KanaVoice
