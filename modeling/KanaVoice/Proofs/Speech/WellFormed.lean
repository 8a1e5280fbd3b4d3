import KanaVoice.Proofs.Kana.RoundTrip
import KanaVoice.Proofs.Symbol.Encoding
import KanaVoice.Proofs.Speech.Placement
import KanaVoice.Proofs.Speech.Utterance
set_option autoImplicit false

/-!
# Well-formed phrases

A mora has a length for a consonant exactly when it has a consonant, a pause is the vowel `pau`
alone and without pitch, and an accent lies within its phrase.  Notation is read into such phrases,
and an utterance gives such phrases if its accents lie within theirs.  Lengths, pitches and rises
may then be given in any order and any number: the phrases stay well-formed, and so their streams
stay of one length.
-/

namespace KanaVoice

/-- The mora has a length for a consonant exactly when it has a consonant. -/
def Mora.IsPaired (m : Mora) : Prop := m.consonant.isSome = m.consonantLength.isSome

/-- The mora is a pause: one vowel of its own and no pitch. -/
structure Mora.IsPause (m : Mora) : Prop where
  consonant : m.consonant = none
  vowel : m.vowel = "pau"
  pitch : m.pitch = 0

/-- The parts of the phrase fit together. -/
structure AccentPhrase.IsWellFormed (p : AccentPhrase) : Prop where
  paired : ∀ m ∈ p.flatten, m.IsPaired
  pause : ∀ m ∈ p.pause, m.IsPause
  accent : p.moras ≠ [] → 1 ≤ p.accent ∧ p.accent ≤ p.moras.length

/-- The accent of the phrase lies on one of its morae, if it has any. -/
def UtterancePhrase.HasAccentWithin (p : UtterancePhrase) : Prop :=
  p.moras ≠ [] → 1 ≤ p.accent ∧ p.accent ≤ p.moras.length

/-- What phrases become when they are given lengths, pitches and rises, in any order. -/
inductive Adjusted (phrases : List AccentPhrase) : List AccentPhrase → Prop
  | none : Adjusted phrases phrases
  | lengths {before after : List AccentPhrase} {values : List Float32} :
    Adjusted phrases before → withLengths before values = .ok after → Adjusted phrases after
  | pitches {before after : List AccentPhrase} {values : List Float32} :
    Adjusted phrases before → withPitches before values = .ok after → Adjusted phrases after
  | upspeak {before : List AccentPhrase} :
    Adjusted phrases before → Adjusted phrases (withUpspeak before)

/-! ## Established -/

namespace Mora

theorem isPaired_plain (text : String) (consonant : Option String) (vowel : String) :
    (plain text consonant vowel).IsPaired :=
  (Option.isSome_map (f := fun _ => (0 : Float32))).symm

theorem isPause_pause : pause.IsPause := ⟨rfl, rfl, rfl⟩

end Mora

namespace AccentPhrase

variable {p : AccentPhrase}

/-- Morae without prosody, perhaps before a pause, are a well-formed phrase if the accent is. -/
theorem isWellFormed_of_plain
    (plain : ∀ m ∈ p.moras, ∃ text consonant vowel, m = .plain text consonant vowel)
    (pause : p.pause = none ∨ p.pause = some .pause)
    (accent : p.moras ≠ [] → 1 ≤ p.accent ∧ p.accent ≤ p.moras.length) : p.IsWellFormed where
  paired m mem := by
    rcases List.mem_append.1 mem with mora | silence
    · obtain ⟨text, consonant, vowel, rfl⟩ := plain m mora
      exact Mora.isPaired_plain text consonant vowel
    · rcases pause with none | some
      · rw [none] at silence
        cases silence
      · rw [some] at silence
        rw [List.mem_singleton.1 silence]
        exact Mora.isPaired_plain _ _ _
  pause m mem := by
    rcases pause with none | some
    · rw [none] at mem
      cases mem
    · rw [some] at mem
      cases mem
      exact Mora.isPause_pause
  accent := accent

theorem IsCanonical.isWellFormed (h : p.IsCanonical) : p.IsWellFormed := by
  refine isWellFormed_of_plain ?_ h.pause fun _ => ⟨h.accent_pos, h.accent_le⟩
  intro m mem
  obtain ⟨e, -, same | ⟨-, same⟩⟩ := h.notated m mem
  · exact ⟨_, _, _, same⟩
  · exact ⟨_, _, _, same⟩

end AccentPhrase

theorem isWellFormed_of_read {text : String} {phrases : List AccentPhrase}
    (h : Kana.read text = .ok phrases) : ∀ p ∈ phrases, p.IsWellFormed := by
  intro p mem
  exact ((Kana.written_of_read h).2.each p mem).isWellFormed

theorem isWellFormed_of_utterance {u : Utterance}
    (accents : ∀ group ∈ u, ∀ p ∈ group, p.HasAccentWithin) :
    ∀ p ∈ u.toAccentPhrases, p.IsWellFormed := by
  intro q mem
  obtain ⟨group, inside, p, mem', same⟩ := Utterance.mem_toAccentPhrases mem
  have moras : q.moras = p.moras.map UtteranceMora.toMora ∧ q.accent = p.accent := by
    rcases same with rfl | rfl
    · exact ⟨rfl, rfl⟩
    · exact ⟨rfl, rfl⟩
  refine AccentPhrase.isWellFormed_of_plain ?_ ?_ ?_
  · intro m mora
    rw [moras.1] at mora
    obtain ⟨m', -, rfl⟩ := List.mem_map.1 mora
    exact ⟨_, _, _, rfl⟩
  · rcases same with rfl | rfl
    · exact .inl rfl
    · exact .inr rfl
  · rw [moras.1, moras.2, List.length_map]
    exact fun nonempty => accents group inside p mem' (mt List.map_eq_nil_iff.2 nonempty)

/-! ## Kept -/

namespace Mora

theorem isPaired_lengthsAt {m : Mora} (h : m.IsPaired) (values : List Float32) (start : Nat) :
    (m.lengthsAt values start).IsPaired := by
  unfold IsPaired lengthsAt
  cases hc : m.consonant with
  | none => simpa [IsPaired, hc] using h
  | some c => rfl

end Mora

namespace AccentPhrase

variable {p : AccentPhrase} {mora pause : Nat → Mora → Mora}

/-- What keeps pairs in morae and pauses what they are keeps phrases well-formed. -/
theorem IsWellFormed.placedAt (h : p.IsWellFormed)
    (moras : ∀ start m, m.IsPaired → (mora start m).IsPaired)
    (pauses : ∀ start m, m.IsPaired → (pause start m).IsPaired)
    (silences : ∀ start m, m.IsPause → (pause start m).IsPause) (start : Nat) :
    (p.placedAt mora pause start).IsWellFormed where
  paired m mem := by
    rcases List.mem_append.1 mem with mem | mem
    · refine forall_mem_mapOffsets (fun m mem start => ?_) start m mem
      exact moras start m (h.paired m (List.mem_append_left _ mem))
    · obtain ⟨m', found, rfl⟩ := Option.map_eq_some_iff.1 (Option.mem_toList.1 mem)
      exact pauses _ m' (h.paired m' (List.mem_append_right _ (Option.mem_toList.2 found)))
  pause m mem := by
    obtain ⟨m', found, rfl⟩ := Option.map_eq_some_iff.1 mem
    exact silences _ m' (h.pause m' found)
  accent := by
    have size : (p.placedAt mora pause start).moras.length = p.moras.length := length_mapOffsets ..
    rw [← List.length_pos_iff, size, List.length_pos_iff]
    exact h.accent

theorem isWellFormed_lengthsAt (h : p.IsWellFormed) (values : List Float32) (start : Nat) :
    (p.lengthsAt values start).IsWellFormed := by
  apply h.placedAt
  · exact fun start m paired => m.isPaired_lengthsAt paired values start
  · exact fun start m paired => paired
  · exact fun start m silence => ⟨silence.consonant, silence.vowel, silence.pitch⟩

theorem isWellFormed_pitchesAt (h : p.IsWellFormed) (values : List Float32) (start : Nat) :
    (p.pitchesAt values start).IsWellFormed := by
  apply h.placedAt
  · exact fun start m paired => paired
  · exact fun start m paired => paired
  · exact fun start m silence => ⟨silence.consonant, silence.vowel, rfl⟩

theorem mem_flatten_withUpspeak {m : Mora} (h : m ∈ p.withUpspeak.flatten) :
    m ∈ p.flatten ∨ m ∈ p.upspeak? := by
  simp only [flatten, withUpspeak, List.mem_append, Option.mem_toList] at h ⊢
  tauto

/-- A rise is a vowel alone, and only a phrase with morae has one. -/
theorem isWellFormed_withUpspeak (h : p.IsWellFormed) : p.withUpspeak.IsWellFormed where
  paired m mem := by
    rcases mem_flatten_withUpspeak mem with old | rise
    · exact h.paired m old
    · obtain ⟨last, -, same⟩ := Option.bind_eq_some_iff.1 rise
      split at same
      · cases same
        rfl
      · cases same
  pause := h.pause
  accent nonempty := by
    have within : 1 ≤ p.accent ∧ p.accent ≤ p.moras.length := by
      refine h.accent fun empty => nonempty ?_
      have noRise : p.upspeak? = none := by
        unfold upspeak?
        rw [empty]
        rfl
      simp [withUpspeak, empty, noRise]
    have longer : p.moras.length ≤ p.withUpspeak.moras.length := by
      rw [withUpspeak, List.length_append]
      exact Nat.le_add_right _ _
    exact ⟨within.1, within.2.trans longer⟩

theorem IsWellFormed.hasBarePause (h : p.IsWellFormed) : p.HasBarePause :=
  fun m mem => (h.pause m mem).consonant

end AccentPhrase

section

variable {phrases placed : List AccentPhrase} {values : List Float32}

theorem isWellFormed_of_withLengths (h : ∀ p ∈ phrases, p.IsWellFormed)
    (run : withLengths phrases values = .ok placed) : ∀ p ∈ placed, p.IsWellFormed := by
  obtain ⟨-, rfl⟩ := withLengths_eq_ok_iff.1 run
  apply forall_mem_mapOffsets
  intro p mem start
  exact p.isWellFormed_lengthsAt (h p mem) values start

theorem isWellFormed_of_withPitches (h : ∀ p ∈ phrases, p.IsWellFormed)
    (run : withPitches phrases values = .ok placed) : ∀ p ∈ placed, p.IsWellFormed := by
  obtain ⟨-, rfl⟩ := withPitches_eq_ok_iff.1 run
  apply forall_mem_mapOffsets
  intro p mem start
  exact p.isWellFormed_pitchesAt (h p mem) values start

theorem isWellFormed_upspeak (h : ∀ p ∈ phrases, p.IsWellFormed) :
    ∀ p ∈ withUpspeak phrases, p.IsWellFormed := by
  intro q mem
  obtain ⟨p, mem', rfl⟩ := List.mem_map.1 mem
  exact p.isWellFormed_withUpspeak (h p mem')

theorem Adjusted.isWellFormed (adjusted : Adjusted phrases placed)
    (h : ∀ p ∈ phrases, p.IsWellFormed) : ∀ p ∈ placed, p.IsWellFormed := by
  induction adjusted with
  | none => exact h
  | lengths _ run ih => exact isWellFormed_of_withLengths ih run
  | pitches _ run ih => exact isWellFormed_of_withPitches ih run
  | upspeak _ ih => exact isWellFormed_upspeak ih

end

/-! ## Streams -/

/-- Well-formed phrases have as many accent marks as phonemes. -/
theorem length_streams {phrases : List AccentPhrase} (h : ∀ p ∈ phrases, p.IsWellFormed) :
    (phonemeSymbols (flattenMoras phrases)).length = (accentSymbols phrases).length := by
  rw [length_phonemeSymbols, sum_phonemeCount_flattenMoras,
    length_accentSymbols fun p mem => (h p mem).hasBarePause]

/-- Reading and analyzing give well-formed phrases, and whatever lengths, pitches and rises they are
given, they stay well-formed.  So there are as many accent marks as phonemes, before the symbols are
looked up and behind it. -/
theorem wellFormed_established_and_kept :
    (∀ (text : String) (phrases : List AccentPhrase), Kana.read text = .ok phrases →
      ∀ p ∈ phrases, p.IsWellFormed) ∧
    (∀ u : Utterance, (∀ group ∈ u, ∀ p ∈ group, p.HasAccentWithin) →
      ∀ p ∈ u.toAccentPhrases, p.IsWellFormed) ∧
    ∀ phrases : List AccentPhrase, (∀ p ∈ phrases, p.IsWellFormed) →
      (∀ (durations : List Float32) (placed : List AccentPhrase),
        withLengths phrases durations = .ok placed → ∀ p ∈ placed, p.IsWellFormed) ∧
      (∀ (pitches : List Float32) (placed : List AccentPhrase),
        withPitches phrases pitches = .ok placed → ∀ p ∈ placed, p.IsWellFormed) ∧
      (∀ p ∈ withUpspeak phrases, p.IsWellFormed) ∧
      ∀ adjusted : List AccentPhrase, Adjusted phrases adjusted →
        (∀ p ∈ adjusted, p.IsWellFormed) ∧
        (phonemeSymbols (flattenMoras adjusted)).length = (accentSymbols adjusted).length ∧
        ∀ (symbols : SymbolTable) (c : Encoding), encode symbols adjusted = .ok c →
          c.phonemeIds.length = c.accentIds.length := by
  refine ⟨fun text phrases => isWellFormed_of_read, fun u => isWellFormed_of_utterance, ?_⟩
  intro phrases wellFormed
  refine ⟨fun durations placed => isWellFormed_of_withLengths wellFormed,
    fun pitches placed => isWellFormed_of_withPitches wellFormed,
    isWellFormed_upspeak wellFormed, ?_⟩
  intro adjusted chain
  have kept := chain.isWellFormed wellFormed
  refine ⟨kept, length_streams kept, fun symbols c encoded => ?_⟩
  rw [length_phonemeIds encoded, length_accentIds (fun p mem => (kept p mem).hasBarePause) encoded]

/-- Two breath groups, the second one a question. -/
def sampleUtterance : Utterance :=
  [[⟨[⟨some "k", "o"⟩, ⟨none, "N"⟩], 1, false⟩], [⟨[⟨some "sh", "I"⟩, ⟨some "t", "a"⟩], 2, true⟩]]

/-- The phrases of some notation are given lengths, pitches and a rise, and have their numbers. -/
theorem exists_adjusted_sample : ∃ timed tuned c,
    withLengths Kana.sample (List.replicate 10 0.1) = .ok timed ∧
    withPitches timed (List.replicate 10 5) = .ok tuned ∧
    encode .builtIn (withUpspeak tuned) = .ok c ∧ c.phonemeIds.length = 11 := by
  let run : Except Fault Encoding := do
    let timed ← withLengths Kana.sample (List.replicate 10 0.1)
    let tuned ← withPitches timed (List.replicate 10 5)
    encode .builtIn (withUpspeak tuned)
  have ends : run.toOption.map (·.phonemeIds.length) = some 11 := by decide +kernel
  cases result : run with
  | error fault =>
    rw [result] at ends
    cases ends
  | ok c =>
    rw [result] at ends
    obtain ⟨timed, lengths, more⟩ := except_bind_eq_ok_iff.1 result
    obtain ⟨tuned, tones, encoded⟩ := except_bind_eq_ok_iff.1 more
    exact ⟨timed, tuned, c, lengths, tones, encoded, Option.some.inj ends⟩

theorem wellFormed_established_and_kept_sample :
    Kana.read "テ'/_シ'タ、キョ'ウ？" = .ok Kana.sample ∧
    (∀ p ∈ sampleUtterance.toAccentPhrases, p.IsWellFormed) ∧
    ∃ timed tuned c, withLengths Kana.sample (List.replicate 10 0.1) = .ok timed ∧
      withPitches timed (List.replicate 10 5) = .ok tuned ∧ (∀ p ∈ tuned, p.IsWellFormed) ∧
      encode .builtIn (withUpspeak tuned) = .ok c ∧ c.phonemeIds.length = 11 ∧
      c.phonemeIds.length = c.accentIds.length := by
  obtain ⟨read, analyzed, kept⟩ := wellFormed_established_and_kept
  have isRead : Kana.read "テ'/_シ'タ、キョ'ウ？" = .ok Kana.sample :=
    Kana.read_eq_ok_iff.2 ⟨by decide +kernel, by decide +kernel⟩
  have within : ∀ group ∈ sampleUtterance, ∀ p ∈ group, p.HasAccentWithin := by
    simp [sampleUtterance, UtterancePhrase.HasAccentWithin]
  have given := read _ _ isRead
  obtain ⟨timed, tuned, c, lengths, tones, encoded, count⟩ := exists_adjusted_sample
  have onTime := (kept _ given).1 _ _ lengths
  have inTune := (kept _ onTime).2.1 _ _ tones
  have chain : Adjusted Kana.sample (withUpspeak tuned) :=
    .upspeak (.pitches (.lengths .none lengths) tones)
  refine ⟨isRead, analyzed _ within, timed, tuned, c, lengths, tones, inTune, encoded, count, ?_⟩
  exact ((kept _ given).2.2.2 _ chain).2.2 .builtIn c encoded

end KanaVoice
