import KanaVoice.Proofs.Inference.CallDiscipline
set_option autoImplicit false

/-!
# Predictions from outputs

The variance stage may answer with any outputs in any order.  Of each of the two names that count,
the last output of single precision is taken, and all of them must have a value for each phoneme.
Integers and other names are passed over, and so is the order of outputs of different names as long
as a prediction is made at all.
-/

namespace KanaVoice

/-! ## Outputs that count -/

/-- The output counts for the prosody. -/
def NamedTensor.isProsody (t : NamedTensor) : Bool :=
  t.floats?.isSome && (t.name == "pitches" || t.name == "durations")

/-- Some output of the name holds numbers of single precision. -/
def HasFloats (name : String) (outputs : List NamedTensor) : Prop :=
  ∃ t ∈ outputs, t.name = name ∧ t.floats?.isSome

theorem exists_lastFloats?_iff {name : String} {outputs : List NamedTensor} :
    (∃ values, lastFloats? name outputs = some values) ↔ HasFloats name outputs := by
  have nonempty : (∃ values, lastFloats? name outputs = some values) ↔
      outputs.filterMap (fun t => if t.name = name then t.floats? else none) ≠ [] := by
    rw [← Option.isSome_iff_exists, lastFloats?, List.getLast?_isSome]
  rw [nonempty, ne_eq, List.filterMap_eq_nil_iff]
  simp [HasFloats, Option.isSome_iff_ne_none]

theorem lastFloats?_filter_name (name : String) (outputs : List NamedTensor) :
    lastFloats? name (outputs.filter (·.name = name)) = lastFloats? name outputs := by
  rw [lastFloats?, lastFloats?, List.filterMap_filter]
  congr 2
  funext t
  by_cases own : t.name = name <;> simp [own]

theorem areSized_of_filter_name {n : Nat} {outputs others : List NamedTensor}
    (same : ∀ name, outputs.filter (·.name = name) = others.filter (·.name = name))
    (sized : AreSized n outputs) : AreSized n others := by
  intro t mem named
  refine sized t ?_ named
  have own : t ∈ others.filter (·.name = t.name) := List.mem_filter.2 ⟨mem, by simp⟩
  rw [← same] at own
  exact List.mem_of_mem_filter own

/-! ## Collecting -/

/-- An output that does not count is passed over. -/
theorem collectProsody_cons_of_not_isProsody {n : Nat} {pitches durations : Option (List Float32)}
    {t : NamedTensor} (rest : List NamedTensor) (other : t.isProsody = false) :
    collectProsody n pitches durations (t :: rest) = collectProsody n pitches durations rest := by
  rw [collectProsody]
  cases floats : t.floats? with
  | none => rfl
  | some values =>
    simp only [NamedTensor.isProsody, floats, Option.isSome_some, Bool.true_and,
      Bool.or_eq_false_iff, beq_eq_false_iff_ne] at other
    simp only [if_neg other.1, if_neg other.2]

theorem collectProsody_filter (n : Nat) (pitches durations : Option (List Float32))
    (outputs : List NamedTensor) :
    collectProsody n pitches durations (outputs.filter NamedTensor.isProsody) =
      collectProsody n pitches durations outputs := by
  induction outputs generalizing pitches durations with
  | nil => rfl
  | cons t rest ih =>
    cases counts : t.isProsody with
    | true =>
      rw [List.filter_cons_of_pos counts]
      simp only [collectProsody, ih]
    | false =>
      rw [List.filter_cons_of_neg (by simp [counts]), ih,
        collectProsody_cons_of_not_isProsody rest counts]

/-! ## Answers -/

/-- The prediction for `n` phonemes in an answer of the variance stage. -/
def prosodyOf (n : Nat) (answer : Except String (List NamedTensor)) : Except Fault Prediction := do
  let outputs ← answer.mapError fun text => .inference .variance (.reported text)
  collectProsody n none none outputs

section

variable {n : Nat} {outputs others : List NamedTensor} {p : Prediction}

theorem prosodyOf_ok (n : Nat) (outputs : List NamedTensor) :
    prosodyOf n (.ok outputs) = collectProsody n none none outputs := rfl

theorem prosodyOf_eq_ok_iff {answer : Except String (List NamedTensor)} :
    prosodyOf n answer = .ok p ↔ ∃ outputs, answer = .ok outputs ∧
      lastFloats? "pitches" outputs = some p.pitches ∧
      lastFloats? "durations" outputs = some p.durations ∧ AreSized n outputs := by
  rw [prosodyOf, except_bind_eq_ok_iff]
  simp only [mapError_eq_ok_iff, collectProsody_eq_ok_iff, Option.or_none]

end

/-- How a prediction for `n` phonemes is made of what the variance stage answers. -/
structure ChoosesProsody (n : Nat)
    (predict : Except String (List NamedTensor) → Except Fault Prediction) : Prop where
  /-- There is one exactly if there are outputs of both names and none of these has another size. -/
  succeeds : ∀ answer, (∃ p, predict answer = .ok p) ↔ ∃ outputs, answer = .ok outputs ∧
    HasFloats "pitches" outputs ∧ HasFloats "durations" outputs ∧ AreSized n outputs
  /-- The last output of each name is taken as it is, -/
  last : ∀ outputs p, predict (.ok outputs) = .ok p →
    lastFloats? "pitches" outputs = some p.pitches ∧
    lastFloats? "durations" outputs = some p.durations
  /-- so that there is a value for each phoneme. -/
  complete : ∀ answer p, predict answer = .ok p → p.pitches.length = n ∧ p.durations.length = n
  /-- Other outputs do not matter, even to a fault, -/
  passedOver : ∀ outputs others,
    outputs.filter NamedTensor.isProsody = others.filter NamedTensor.isProsody →
    predict (.ok outputs) = predict (.ok others)
  /-- nor does a prediction depend on the order of outputs of different names. -/
  reordered : ∀ outputs others p,
    (∀ name, outputs.filter (·.name = name) = others.filter (·.name = name)) →
    predict (.ok outputs) = .ok p → predict (.ok others) = .ok p
  /-- Every fault is the stage's own. -/
  refused : ∀ answer fault, predict answer = .error fault →
    ∃ cause, fault = .inference .variance cause

theorem choosesProsody_prosodyOf (n : Nat) : ChoosesProsody n (prosodyOf n) := by
  constructor
  case succeeds =>
    intro answer
    constructor
    · rintro ⟨p, predicted⟩
      obtain ⟨outputs, answered, pitches, durations, sized⟩ := prosodyOf_eq_ok_iff.1 predicted
      exact ⟨outputs, answered, exists_lastFloats?_iff.1 ⟨_, pitches⟩,
        exists_lastFloats?_iff.1 ⟨_, durations⟩, sized⟩
    · rintro ⟨outputs, answered, hasPitches, hasDurations, sized⟩
      obtain ⟨pitches, isLast⟩ := exists_lastFloats?_iff.2 hasPitches
      obtain ⟨durations, isLast'⟩ := exists_lastFloats?_iff.2 hasDurations
      exact ⟨⟨pitches, durations⟩,
        prosodyOf_eq_ok_iff.2 ⟨outputs, answered, isLast, isLast', sized⟩⟩
  case last =>
    intro outputs p predicted
    obtain ⟨_, ⟨⟩, pitches, durations, -⟩ := prosodyOf_eq_ok_iff.1 predicted
    exact ⟨pitches, durations⟩
  case complete =>
    intro answer p predicted
    obtain ⟨outputs, -, collected⟩ := except_bind_eq_ok_iff.1 predicted
    exact length_collectProsody (by simp) (by simp) collected
  case passedOver =>
    intro outputs others same
    rw [prosodyOf_ok, prosodyOf_ok, ← collectProsody_filter, same, collectProsody_filter]
  case reordered =>
    intro outputs others p same predicted
    obtain ⟨_, ⟨⟩, pitches, durations, sized⟩ := prosodyOf_eq_ok_iff.1 predicted
    refine prosodyOf_eq_ok_iff.2 ⟨others, rfl, ?_, ?_, areSized_of_filter_name same sized⟩
    · rw [← lastFloats?_filter_name, ← same, lastFloats?_filter_name, pitches]
    · rw [← lastFloats?_filter_name, ← same, lastFloats?_filter_name, durations]
  case refused =>
    intro answer fault failed
    have own : FailsOnly (fun f => ∃ cause, f = .inference .variance cause) (prosodyOf n answer) :=
      .bind (.mapError answer fun text => ⟨.reported text, rfl⟩) fun outputs _ =>
        (failsOnly_collectProsody n none none outputs).mono fun _ => And.right
    exact own.fault failed

/-! ## Runs -/

section

variable {S : Type} (b : Backend S)

theorem exists_varianceInputs {phonemes accents : List Int} (speaker : Int64)
    (nonempty : phonemes ≠ []) (addressable : phonemes.length ≤ maxSize)
    (aligned : accents.length = phonemes.length) :
    ∃ inputs, varianceInputs phonemes accents speaker = .ok inputs := by
  have row : shapeFault? [1, phonemes.length] phonemes.length = none :=
    shapeFault?_row (mt List.eq_nil_of_length_eq_zero nonempty) addressable
  have row' : shapeFault? [1, phonemes.length] accents.length = none := aligned ▸ row
  refine ⟨[⟨"phonemes", [1, phonemes.length], .int64 phonemes, row⟩,
    ⟨"accents", [1, phonemes.length], .int64 accents, row'⟩,
    ⟨"speaker", [1], .int64 [speaker.toInt], rfl⟩], ?_⟩
  rw [varianceInputs, NamedTensor.int64, ofData_of_fits row, NamedTensor.int64,
    ofData_of_fits row', speakerTensor, NamedTensor.int64, ofData_of_fits rfl]
  rfl

theorem outcome_variance {sessions : Sessions S} {phonemes accents : List Int} {speaker : Int64}
    {inputs : List NamedTensor} (nonempty : phonemes ≠ [])
    (aligned : accents.length = phonemes.length)
    (tensors : varianceInputs phonemes accents speaker = .ok inputs) (history : History S) :
    outcome (b.variance sessions phonemes accents speaker) history =
      (prosodyOf phonemes.length (b.run history sessions.variance inputs),
        history ++
          [.run .variance sessions.variance inputs (b.run history sessions.variance inputs)]) := by
  rw [variance_eq, if_neg (by simp [aligned]),
    if_neg (mt List.eq_nil_of_length_eq_zero nonempty), tensors, outcome_bind, outcome_liftM]
  simp only []
  rw [outcome_bind, outcome_runSession, prosodyOf]
  cases b.run history sessions.variance inputs <;> rfl

/-- The calls of the variance stage and what it predicts. -/
structure PredictsProsody (history : History S) (sessions : Sessions S)
    (phonemes accents : List Int) (speaker : Int64)
    (result : Except Fault Prediction × History S) : Prop where
  /-- Lists of different lengths are a fault, and nothing is run. -/
  unaligned : accents.length ≠ phonemes.length →
    result = (.error (.inference .variance (.unalignedAccents phonemes.length accents.length)),
      history)
  /-- Nor is anything run without phonemes. -/
  empty : phonemes = [] → accents = [] → result = (.ok ⟨[], []⟩, history)
  /-- Else the session is run once, on the arguments, and its answer alone decides. -/
  predicted : accents.length = phonemes.length → phonemes ≠ [] →
    ∃ inputs, inputs.map NamedTensor.contents =
        [("phonemes", [1, phonemes.length], .int64 phonemes),
         ("accents", [1, phonemes.length], .int64 accents),
         ("speaker", [1], .int64 [speaker.toInt])] ∧
      result = (prosodyOf phonemes.length (b.run history sessions.variance inputs), history ++
        [.run .variance sessions.variance inputs (b.run history sessions.variance inputs)]) ∧
      ChoosesProsody phonemes.length (prosodyOf phonemes.length)

/-- The variance stage predicts prosody from the last outputs of two names, whatever else it is
answered.  No list is longer than a signed machine word can count. -/
theorem predictsProsody_variance (history : History S) (sessions : Sessions S)
    {phonemes : List Int} (addressable : phonemes.length ≤ maxSize) (accents : List Int)
    (speaker : Int64) :
    PredictsProsody b history sessions phonemes accents speaker
      (outcome (b.variance sessions phonemes accents speaker) history) := by
  constructor
  case unaligned =>
    intro unaligned
    rw [variance_eq, if_pos (Ne.symm unaligned)]
    rfl
  case empty =>
    rintro rfl rfl
    rfl
  case predicted =>
    intro aligned nonempty
    obtain ⟨inputs, tensors⟩ := exists_varianceInputs speaker nonempty addressable aligned
    exact ⟨inputs, contents_of_varianceInputs tensors,
      outcome_variance b nonempty aligned tensors history, choosesProsody_prosodyOf _⟩

end

/-- A backend that answers with more outputs than are asked for. -/
def talkativeBackend : Backend Stage where
  devices := {}
  load _ stage _ _ := .ok stage
  run _ _ _ := .ok [
    ⟨"pitches", [2], .float32 [5, 6], rfl⟩,
    ⟨"durations", [1, 2, 1], .float32 [1, 2], rfl⟩,
    ⟨"pitches", [1, 2], .float32 [7, 8], rfl⟩,
    ⟨"pitches", [3], .int64 [1, 2, 3], rfl⟩,
    ⟨"wave", [0], .float32 [], rfl⟩]

/-- The second pitches count, for they are the last ones of single precision. -/
theorem predictsProsody_variance_talkative :
    [(3 : Int), 5].length ≤ maxSize ∧
      (outcome (talkativeBackend.variance ⟨.variance, .embedder, .decoder⟩ [3, 5] [0, 4] 7) []).1 =
        .ok ⟨[7, 8], [1, 2]⟩ := by
  have addressable : [(3 : Int), 5].length ≤ maxSize := by decide
  obtain ⟨inputs, -, run, chooses⟩ := (predictsProsody_variance talkativeBackend []
    ⟨.variance, .embedder, .decoder⟩ addressable [0, 4] 7).predicted rfl (by decide)
  obtain ⟨p, predicted⟩ := (chooses.succeeds (talkativeBackend.run [] .variance inputs)).2
    ⟨_, rfl, by simp [HasFloats, NamedTensor.floats?], by simp [HasFloats, NamedTensor.floats?],
      by simp [AreSized, NamedTensor.floats?]⟩
  obtain ⟨pitches, durations⟩ := chooses.last _ p predicted
  have chosen : p = ⟨[7, 8], [1, 2]⟩ := by
    obtain ⟨_, _⟩ := p
    cases Option.some.inj pitches
    cases Option.some.inj durations
    rfl
  rw [run, ← chosen]
  exact ⟨addressable, predicted⟩

end KanaVoice
