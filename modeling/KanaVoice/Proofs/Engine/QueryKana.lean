import KanaVoice.Proofs.Engine.ProsodyPasses
set_option autoImplicit false

/-!
# The kana of a query

A query carries the kana of its phrases.  Phrases that were read from kana notation may get their
prosody in any number of passes, for any speakers and whatever is predicted: the query that is made
of them carries the notation that they were read from, and it is read as these phrases again but for
their prosody.
-/

namespace KanaVoice

/-! ## What placing leaves alone

Placing lengths changes lengths and nothing else, and placing pitches changes pitches and nothing
else: when these are taken away, the phrases before and after are the same.  The kana notation of
phrases is written of what is left without any prosody, so it survives both. -/

/-! ### Lengths alone, pitches alone -/

namespace Mora

/-- The mora without its lengths. -/
def withoutLengths (m : Mora) : Mora := { m with consonantLength := none, vowelLength := 0 }

/-- The mora without its pitch. -/
def withoutPitch (m : Mora) : Mora := { m with pitch := 0 }

end Mora

/-- The phrases differ in nothing but the lengths of their morae and pauses. -/
def SameButLengths (phrases others : List AccentPhrase) : Prop :=
  phrases.map (AccentPhrase.mapMoras Mora.withoutLengths) =
    others.map (AccentPhrase.mapMoras Mora.withoutLengths)

/-- The phrases differ in nothing but the pitches of their morae and pauses. -/
def SameButPitches (phrases others : List AccentPhrase) : Prop :=
  phrases.map (AccentPhrase.mapMoras Mora.withoutPitch) =
    others.map (AccentPhrase.mapMoras Mora.withoutPitch)

section

variable {phrases placed : List AccentPhrase} {values : List Float32}

theorem sameButLengths_of_withLengths (h : withLengths phrases values = .ok placed) :
    SameButLengths placed phrases := by
  obtain ⟨-, rfl⟩ := withLengths_eq_ok_iff.1 h
  apply map_mapOffsets
  intro p _ start
  apply AccentPhrase.mapMoras_placedAt
  · intro start m
    rfl
  · intro start m
    rfl

theorem sameButPitches_of_withPitches (h : withPitches phrases values = .ok placed) :
    SameButPitches placed phrases := by
  obtain ⟨-, rfl⟩ := withPitches_eq_ok_iff.1 h
  apply map_mapOffsets
  intro p _ start
  apply AccentPhrase.mapMoras_placedAt
  · intro start m
    rfl
  · intro start m
    rfl

end

/-! ### Kana -/

namespace Kana

theorem moraChars_withoutProsody (accent index : Nat) (moras : List Mora) :
    moraChars accent index (moras.map Mora.withoutProsody) = moraChars accent index moras := by
  induction moras generalizing index with
  | nil => rfl
  | cons m rest ih =>
    rw [List.map_cons, moraChars, moraChars, ih]
    rfl

theorem phraseChars_withoutProsody (p : AccentPhrase) :
    phraseChars p.withoutProsody = phraseChars p :=
  congrArg (· ++ _) (moraChars_withoutProsody p.accent 0 p.moras)

theorem delimiterOf_withoutProsody (p : AccentPhrase) :
    delimiterOf p.withoutProsody = delimiterOf p := by
  unfold delimiterOf AccentPhrase.withoutProsody
  rw [Option.isSome_map]

theorem phrasesChars_withoutProsody (phrases : List AccentPhrase) :
    phrasesChars (phrases.map AccentPhrase.withoutProsody) = phrasesChars phrases := by
  induction phrases with
  | nil => rfl
  | cons p rest ih =>
    by_cases final : rest = []
    · rw [final]
      exact phraseChars_withoutProsody p
    · have more : rest.map AccentPhrase.withoutProsody ≠ [] := mt List.map_eq_nil_iff.1 final
      rw [List.map_cons, phrasesChars_cons _ more, phrasesChars_cons p final, ih,
        phraseChars_withoutProsody, delimiterOf_withoutProsody]

end Kana

/-- Phrases that differ in nothing but prosody are written alike. -/
theorem SameSymbols.write {phrases others : List AccentPhrase} (h : SameSymbols phrases others) :
    Kana.write phrases = Kana.write others := by
  unfold Kana.write
  rw [← Kana.phrasesChars_withoutProsody, h, Kana.phrasesChars_withoutProsody]

/-! ## The kana of engines -/

variable {S : Type} (b : Backend S)

/-! ### What does not depend on prosody -/

/-- Apart from their prosody the same is read off the phrases. -/
structure SameReading (phrases others : List AccentPhrase) : Prop where
  kana : Kana.write phrases = Kana.write others
  /-- Either both have the same numbers, or both have the same unknown symbol. -/
  streams : ∀ symbols,
    (encode symbols phrases).map (fun c => (c.phonemeIds, c.accentIds)) =
      (encode symbols others).map fun c => (c.phonemeIds, c.accentIds)
  texts : (phrases.map fun p => p.flatten.map Mora.text) =
    others.map fun p => p.flatten.map Mora.text
  accents : phrases.map AccentPhrase.accent = others.map AccentPhrase.accent
  pauses : (phrases.map fun p => p.pause.isSome) = others.map fun p => p.pause.isSome
  questions : phrases.map AccentPhrase.isQuestion = others.map AccentPhrase.isQuestion

theorem SameSymbols.sameReading {phrases others : List AccentPhrase}
    (h : SameSymbols phrases others) : SameReading phrases others where
  kana := h.write
  streams symbols := by
    rw [encode_of_sameSymbols h]
    cases encode symbols others <;> rfl
  texts := by
    apply h.map_eq
    intro p
    rw [AccentPhrase.flatten_withoutProsody, List.map_map]
    rfl
  accents := h.map_eq fun _ => rfl
  pauses := h.map_eq fun p => Option.isSome_map
  questions := h.map_eq fun _ => rfl

/-! ### Passes in a row -/

namespace Engine

/-- What a pass gives to phrases. -/
inductive Prosody where
  | lengths
  | pitches
  | both
  deriving DecidableEq, Repr

/-- The operation that gives it to phrases. -/
def Prosody.op (speaker : Int64) (phrases : List AccentPhrase) :
    Prosody → Op S (List AccentPhrase)
  | .lengths => replaceLengths b phrases speaker
  | .pitches => replacePitches b phrases speaker
  | .both => replaceProsody b phrases speaker

/-- What phrases become in successful passes, one after another; the engine may be any one each
time. -/
inductive Replaced (b : Backend S) (phrases : List AccentPhrase) : List AccentPhrase → Prop
  | none : Replaced b phrases phrases
  | pass {placed next : List AccentPhrase} {speaker : Int64} {e e' : Engine S}
      (given : Prosody) : Replaced b phrases placed →
    outcome (given.op b speaker placed) e = (.ok next, e') → Replaced b phrases next

variable {phrases placed : List AccentPhrase} {speaker : Int64} {e e' : Engine S}

theorem sameSymbols_of_pass
    {place : Prediction → List AccentPhrase → Except Fault (List AccentPhrase)}
    (keeps : ∀ p, place p phrases = .ok placed → SameSymbols placed phrases)
    (h : outcome (pass b speaker place phrases) e = (.ok placed, e')) :
    SameSymbols placed phrases := by
  unfold pass at h
  obtain ⟨v, _, -, h⟩ := outcome_bind_eq_ok_iff.1 h
  obtain ⟨p, _, -, h⟩ := outcome_bind_eq_ok_iff.1 h
  exact keeps p (outcome_liftM_eq_ok_iff.1 h).1

/-- One pass. -/
theorem sameSymbols_of_op {given : Prosody}
    (h : outcome (given.op b speaker phrases) e = (.ok placed, e')) :
    SameSymbols placed phrases := by
  cases given with
  | lengths =>
    rw [Prosody.op, replaceLengths_eq_pass] at h
    exact sameSymbols_of_pass b (fun _ => sameSymbols_of_withLengths) h
  | pitches =>
    rw [Prosody.op, replacePitches_eq_pass] at h
    exact sameSymbols_of_pass b (fun _ => sameSymbols_of_withPitches) h
  | both =>
    rw [Prosody.op, replaceProsody_eq_pass] at h
    exact sameSymbols_of_pass b (fun _ => sameSymbols_of_withPrediction) h

/-- Any number of passes. -/
theorem Replaced.sameSymbols (h : Replaced b phrases placed) : SameSymbols placed phrases := by
  induction h with
  | none => rfl
  | pass given _ run ih => exact (sameSymbols_of_op b run).trans ih

/-- The kana of a query is what its phrases were read from, whatever prosody they have got since,
and neither placing lengths nor placing pitches changes anything else. -/
theorem kana_of_replaced :
    (∀ (text : String) (phrases placed : List AccentPhrase), Kana.read text = .ok phrases →
      Replaced b phrases placed →
      (AudioQuery.ofPhrases placed).kana = text ∧
        ∃ again, Kana.read (AudioQuery.ofPhrases placed).kana = .ok again ∧
          SameSymbols again placed) ∧
    (∀ (phrases placed : List AccentPhrase) (durations : List Float32),
      withLengths phrases durations = .ok placed →
      SameButLengths placed phrases ∧ SameReading placed phrases) ∧
    ∀ (phrases placed : List AccentPhrase) (pitches : List Float32),
      withPitches phrases pitches = .ok placed →
      SameButPitches placed phrases ∧ SameReading placed phrases := by
  refine ⟨?_, ?_, ?_⟩
  · intro text phrases placed isRead replaced
    have same := replaced.sameSymbols
    have kana : Kana.write placed = text := by rw [same.write, (Kana.written_of_read isRead).1]
    refine ⟨kana, phrases, ?_, same.symm⟩
    show Kana.read (Kana.write placed) = .ok phrases
    rw [kana, isRead]
  · intro phrases placed durations isPlaced
    exact ⟨sameButLengths_of_withLengths isPlaced,
      (sameSymbols_of_withLengths isPlaced).sameReading⟩
  · intro phrases placed pitches isPlaced
    exact ⟨sameButPitches_of_withPitches isPlaced,
      (sameSymbols_of_withPitches isPlaced).sameReading⟩

theorem read_question : Kana.read "カ'？" = .ok questionPhrases := by
  have chars : "カ'？".toList = Kana.phrasesChars questionPhrases := by decide +kernel
  have canonical : Kana.Canonical questionPhrases := by decide +kernel
  rw [Kana.read, if_neg (by decide), chars,
    Kana.readPieces_phrasesChars canonical (by decide)]
  rfl

/-- The phrases are other ones afterwards, but not their kana. -/
theorem kana_of_replaced_question :
    (∃ placed, Kana.read "カ'？" = .ok questionPhrases ∧
      Replaced questionBackend questionPhrases placed ∧ placed ≠ questionPhrases ∧
      (AudioQuery.ofPhrases placed).kana = "カ'？") ∧
    (∃ timed, withLengths questionPhrases [0.05, 0.1] = .ok timed ∧
      SameButLengths timed questionPhrases) ∧
    ∃ tuned, withPitches questionPhrases [0, 6] = .ok tuned ∧
      SameButPitches tuned questionPhrases := by
  obtain ⟨survives, lengths, pitches⟩ := kana_of_replaced questionBackend
  refine ⟨?_, ?_, ?_⟩
  · obtain ⟨placed, e', run, other⟩ := outcome_replaceProsody_question
    have replaced : Replaced questionBackend questionPhrases placed := .pass .both .none run
    obtain ⟨kana, -⟩ := survives _ _ _ read_question replaced
    exact ⟨placed, read_question, replaced, other, kana⟩
  · have isPlaced : withLengths questionPhrases [0.05, 0.1] = .ok _ :=
      withLengths_eq_ok_iff.2 ⟨rfl, rfl⟩
    exact ⟨_, isPlaced, (lengths _ _ _ isPlaced).1⟩
  · have isPlaced : withPitches questionPhrases [0, 6] = .ok _ :=
      withPitches_eq_ok_iff.2 ⟨rfl, rfl⟩
    exact ⟨_, isPlaced, (pitches _ _ _ isPlaced).1⟩

end Engine

end KanaVoice
