import KanaVoice.Proofs.Outcome
import KanaVoice.Proofs.Sound.Regulation
set_option autoImplicit false

/-!
# What the stages do

Each stage runs its session at most once, and only on lists that fit together.  For each stage
there is one statement of what a success did to the history, and one of the faults that it can
have when its lists have one length: these are faults of its own work, and a misalignment is never
among them.
-/

namespace KanaVoice

/-- The fault of lists that should have one entry for each phoneme position. -/
def Fault.IsMisalignment : Fault → Prop
  | .inference _ (.unalignedValues ..) => True
  | .inference _ (.unalignedAccents ..) => True
  | .inference _ (.unalignedProsody ..) => True
  | _ => False

/-- The fault of a stage: over its lists, over a tensor or over a number that is out of range. -/
def Fault.IsOfStages : Fault → Prop
  | .inference .. | .shape _ | .outOfRange .. => True
  | _ => False

/-- The fault of a stage whose lists fit together. -/
structure Fault.IsOfWork (fault : Fault) : Prop where
  ofStages : fault.IsOfStages
  aligned : ¬ fault.IsMisalignment

/-! ## Tensors -/

theorem ofData_of_fits {name : String} {shape : List Nat} {data : TensorData}
    (fits : shapeFault? shape data.count = none) :
    NamedTensor.ofData name shape data = .ok ⟨name, shape, data, fits⟩ := by
  unfold NamedTensor.ofData
  split
  case h_1 cause unfit => simp [fits] at unfit
  case h_2 => rfl

theorem ofData_of_unfit {name : String} {shape : List Nat} {data : TensorData} {cause : ShapeFault}
    (unfit : shapeFault? shape data.count = some cause) :
    NamedTensor.ofData name shape data = .error (.shape cause) := by
  unfold NamedTensor.ofData
  split
  case h_1 cause' reported =>
    rw [unfit] at reported
    cases reported
    rfl
  case h_2 fits => simp [unfit] at fits

theorem failsOnly_ofData (name : String) (shape : List Nat) (data : TensorData) :
    FailsOnly (fun f => ∃ cause, f = .shape cause) (NamedTensor.ofData name shape data) := by
  unfold NamedTensor.ofData
  split
  · exact .error ⟨_, rfl⟩
  · exact .ok _

theorem failsOnly_speakerTensor (speaker : Int64) :
    FailsOnly (fun f => ∃ cause, f = .shape cause) (speakerTensor speaker) :=
  failsOnly_ofData "speaker" [1] (.int64 [speaker.toInt])

theorem failsOnly_varianceInputs (phonemes accents : List Int) (speaker : Int64) :
    FailsOnly (fun f => ∃ cause, f = .shape cause)
      (varianceInputs phonemes accents speaker) :=
  .bind (failsOnly_ofData _ _ _) fun _ _ => .bind (failsOnly_ofData _ _ _) fun _ _ =>
    .bind (failsOnly_speakerTensor _) fun _ _ => .ok _

theorem failsOnly_embedderInputs (phonemes : List Int) (pitches : List Float32)
    (speaker : Int64) :
    FailsOnly (fun f => ∃ cause, f = .shape cause)
      (embedderInputs phonemes pitches speaker) :=
  .bind (failsOnly_ofData _ _ _) fun _ _ => .bind (failsOnly_ofData _ _ _) fun _ _ =>
    .bind (failsOnly_speakerTensor _) fun _ _ => .ok _

theorem isOfWork_of_shape {fault : Fault} (h : ∃ cause, fault = .shape cause) :
    fault.IsOfWork := by
  obtain ⟨cause, rfl⟩ := h
  exact ⟨trivial, id⟩

/-! ## Prosody in the outputs of the variance stage -/

theorem perPhoneme_eq_ok_iff {name : String} {values result : List Float32} {n : Nat} :
    perPhoneme name values n = .ok result ↔ values.length = n ∧ result = values := by
  unfold perPhoneme
  split <;> simp_all [eq_comm]

/-- What is collected has one value for each phoneme, if what was collected before has. -/
theorem length_collectProsody {n : Nat} {pitches durations : Option (List Float32)}
    {outputs : List NamedTensor} {p : Prediction}
    (earlierPitches : ∀ l ∈ pitches, l.length = n)
    (earlierDurations : ∀ l ∈ durations, l.length = n)
    (h : collectProsody n pitches durations outputs = .ok p) :
    p.pitches.length = n ∧ p.durations.length = n := by
  induction outputs generalizing pitches durations with
  | nil =>
    unfold collectProsody at h
    split at h
    case h_1 =>
      cases h
      exact ⟨earlierPitches _ rfl, earlierDurations _ rfl⟩
    case h_2 => cases h
  | cons t rest ih =>
    unfold collectProsody at h
    split at h
    case h_1 => exact ih earlierPitches earlierDurations h
    case h_2 values floats =>
      split at h
      · obtain ⟨_, fits, more⟩ := except_bind_eq_ok_iff.1 h
        obtain ⟨length, rfl⟩ := perPhoneme_eq_ok_iff.1 fits
        exact ih (by simpa using length) earlierDurations more
      · split at h
        · obtain ⟨_, fits, more⟩ := except_bind_eq_ok_iff.1 h
          obtain ⟨length, rfl⟩ := perPhoneme_eq_ok_iff.1 fits
          exact ih earlierPitches (by simpa using length) more
        · exact ih earlierPitches earlierDurations h

theorem failsOnly_perPhoneme (name : String) (values : List Float32) (n : Nat) :
    FailsOnly (fun f => f.IsOfWork ∧ ∃ cause, f = .inference .variance cause)
      (perPhoneme name values n) := by
  unfold perPhoneme
  split
  · exact .error ⟨⟨trivial, id⟩, _, rfl⟩
  · exact .ok _

theorem failsOnly_collectProsody (n : Nat) (pitches durations : Option (List Float32))
    (outputs : List NamedTensor) :
    FailsOnly (fun f => f.IsOfWork ∧ ∃ cause, f = .inference .variance cause)
      (collectProsody n pitches durations outputs) := by
  induction outputs generalizing pitches durations with
  | nil =>
    unfold collectProsody
    split
    · exact .ok _
    · exact .error ⟨⟨trivial, id⟩, _, rfl⟩
  | cons t rest ih =>
    unfold collectProsody
    split
    · exact ih _ _
    · split
      · exact .bind (failsOnly_perPhoneme _ _ _) fun _ _ => ih _ _
      · split
        · exact .bind (failsOnly_perPhoneme _ _ _) fun _ _ => ih _ _
        · exact ih _ _

/-! ## Sessions -/

section

variable {S : Type} (b : Backend S)

theorem outcome_runSession (stage : Stage) (session : S) (inputs : List NamedTensor)
    (history : History S) :
    outcome (b.runSession stage session inputs) history =
      ((b.run history session inputs).mapError fun text => .inference stage (.reported text),
        history ++ [.run stage session inputs (b.run history session inputs)]) := rfl

theorem outcome_runSession_eq_ok_iff {stage : Stage} {session : S} {inputs outputs}
    {history history' : History S} :
    outcome (b.runSession stage session inputs) history = (.ok outputs, history') ↔
      b.run history session inputs = .ok outputs ∧
      history' = history ++ [.run stage session inputs (.ok outputs)] := by
  rw [outcome_runSession, Prod.mk.injEq, mapError_eq_ok_iff]
  constructor
  · rintro ⟨answer, rfl⟩
    rw [answer]
    exact ⟨rfl, rfl⟩
  · rintro ⟨answer, rfl⟩
    rw [answer]
    exact ⟨rfl, rfl⟩

theorem yields_runSession (stage : Stage) (session : S) (inputs : List NamedTensor) :
    Yields (b.runSession stage session inputs) (fun _ => True)
      Fault.IsOfWork where
  value _ := trivial
  fault {history _ fault} run := by
    rw [outcome_runSession, Prod.mk.injEq] at run
    cases answer : b.run history session inputs with
    | ok outputs => simp [answer, Except.mapError] at run
    | error text =>
      rw [answer] at run
      cases run.1
      exact ⟨trivial, id⟩

/-! ## Variance -/

theorem variance_eq (sessions : Sessions S) (phonemes accents : List Int) (speaker : Int64) :
    b.variance sessions phonemes accents speaker =
      if phonemes.length ≠ accents.length then
        throw (.inference .variance (.unalignedAccents phonemes.length accents.length))
      else if phonemes.length = 0 then pure {}
      else (do
        let inputs ← liftM (varianceInputs phonemes accents speaker)
        let outputs ← b.runSession .variance sessions.variance inputs
        liftM (collectProsody phonemes.length none none outputs)) := by
  by_cases unaligned : phonemes.length ≠ accents.length
  · simp only [Backend.variance, if_pos unaligned]
    rfl
  · simp only [Backend.variance, if_neg unaligned]

theorem outcome_variance_of_ok {sessions : Sessions S} {phonemes accents : List Int}
    {speaker : Int64} {history history' : History S} {p : Prediction}
    (nonempty : phonemes ≠ [])
    (h : outcome (b.variance sessions phonemes accents speaker) history = (.ok p, history')) :
    ∃ inputs outputs, varianceInputs phonemes accents speaker = .ok inputs ∧
      collectProsody phonemes.length none none outputs = .ok p ∧
      history' = history ++ [.run .variance sessions.variance inputs (.ok outputs)] := by
  rw [variance_eq] at h
  split at h
  · simp at h
  · rw [if_neg (by simpa using nonempty)] at h
    obtain ⟨inputs, _, first, more⟩ := outcome_bind_eq_ok_iff.1 h
    obtain ⟨tensors, rfl⟩ := outcome_liftM_eq_ok_iff.1 first
    obtain ⟨outputs, _, run, last⟩ := outcome_bind_eq_ok_iff.1 more
    obtain ⟨-, rfl⟩ := (outcome_runSession_eq_ok_iff b).1 run
    obtain ⟨collected, rfl⟩ := outcome_liftM_eq_ok_iff.1 last
    exact ⟨inputs, outputs, tensors, collected, rfl⟩

theorem yields_variance {sessions : Sessions S} {phonemes accents : List Int} {speaker : Int64}
    (aligned : accents.length = phonemes.length) :
    Yields (b.variance sessions phonemes accents speaker)
      (fun p => p.pitches.length = phonemes.length ∧ p.durations.length = phonemes.length)
      Fault.IsOfWork := by
  rw [variance_eq, if_neg (by simp [aligned])]
  split
  case isTrue empty => exact .pure (by simp [empty])
  case isFalse =>
    refine .seq (.liftFault ?_) ?_
    · exact (failsOnly_varianceInputs ..).mono fun _ => isOfWork_of_shape
    intro inputs
    refine .seq (yields_runSession b _ _ _) ?_
    intro outputs
    refine .lift (fun p collected => ?_) ?_
    · exact length_collectProsody (by simp) (by simp) collected
    · exact (failsOnly_collectProsody ..).mono fun _ => And.left

/-! ## Embedder and decoder -/

/-- The values of an output in a session's answer, with their shape. -/
def outputOf (stage : Stage) (name : String) (answer : Except String (List NamedTensor)) :
    Except Fault (List Nat × List Float32) := do
  let outputs ← answer.mapError fun text => .inference stage (.reported text)
  match outputs.find? (·.name = name) with
  | none => .error (.inference stage (.noOutput name))
  | some t =>
    match t.floats? with
    | some values => .ok (t.shape, values)
    | none => .error (.inference stage (.notFloats name))

theorem outputOf_eq_ok_iff {stage : Stage} {name : String}
    {answer : Except String (List NamedTensor)} {shape : List Nat} {values : List Float32} :
    outputOf stage name answer = .ok (shape, values) ↔ ∃ outputs output, answer = .ok outputs ∧
      outputs.find? (·.name = name) = some output ∧ output.shape = shape ∧
      output.floats? = some values := by
  rw [outputOf]
  cases answer with
  | error text => simp [Except.mapError, bind, Except.bind]
  | ok outputs =>
    simp only [Except.mapError, except_ok_bind, Except.ok.injEq]
    cases found : outputs.find? (·.name = name) with
    | none => simp [found]
    | some output =>
      cases floats : output.floats? with
      | none => simp [found, floats]
      | some values' => simp [found, floats]

/-- The session is run once, whatever becomes of its answer. -/
theorem outcome_runForOutput (stage : Stage) (session : S) (inputs : List NamedTensor)
    (name : String) (history : History S) :
    outcome (b.runForOutput stage session inputs name) history =
      (outputOf stage name (b.run history session inputs),
        history ++ [.run stage session inputs (b.run history session inputs)]) := by
  unfold Backend.runForOutput
  rw [outcome_bind, outcome_runSession, outputOf]
  cases b.run history session inputs with
  | error text => rfl
  | ok outputs =>
    simp only [Except.mapError, except_ok_bind]
    cases outputs.find? (·.name = name) with
    | none => rfl
    | some output => cases h : output.floats? <;> simp [h]

theorem outcome_runForOutput_of_ok {stage : Stage} {session : S} {inputs : List NamedTensor}
    {name : String} {history history' : History S} {shape : List Nat} {values : List Float32}
    (h : outcome (b.runForOutput stage session inputs name) history =
      (.ok (shape, values), history')) :
    ∃ outputs t, outputs.find? (·.name = name) = some t ∧ t.floats? = some values ∧
      t.shape = shape ∧ history' = history ++ [.run stage session inputs (.ok outputs)] := by
  rw [outcome_runForOutput, Prod.mk.injEq] at h
  obtain ⟨read, rfl⟩ := h
  obtain ⟨outputs, output, answered, found, shape, floats⟩ := outputOf_eq_ok_iff.1 read
  exact ⟨outputs, output, found, floats, shape, by rw [answered]⟩

theorem history_runForOutput (stage : Stage) (session : S) (inputs : List NamedTensor)
    (name : String) (history : History S) :
    (outcome (b.runForOutput stage session inputs name) history).2 =
      history ++ [.run stage session inputs (b.run history session inputs)] := by
  rw [outcome_runForOutput]

theorem yields_runForOutput (stage : Stage) (session : S) (inputs : List NamedTensor)
    (name : String) :
    Yields (b.runForOutput stage session inputs name) (fun _ => True)
      Fault.IsOfWork := by
  refine .seq (yields_runSession b _ _ _) ?_
  intro outputs
  split
  · exact .throw ⟨trivial, id⟩
  · split
    · exact .pure trivial
    · exact .throw ⟨trivial, id⟩

theorem failsOnly_featureRows (n : Nat) (shape : List Nat) (values : List Float32) :
    FailsOnly (Fault.IsOfWork) (featureRows n shape values) := by
  unfold featureRows
  simp only []
  split
  · exact .error ⟨trivial, id⟩
  · split
    · exact .ok _
    · exact .error ⟨trivial, id⟩
    · exact .error ⟨trivial, id⟩

/-- The feature rows of `n` phonemes in an answer of the embedder. -/
def embeddingOf (n : Nat) (answer : Except String (List NamedTensor)) : Except Fault Matrix := do
  let (shape, values) ← outputOf .embedder "feature_embedded" answer
  featureRows n shape values

theorem outcome_embed {session : S} {phonemes : List Int} {pitches : List Float32}
    {speaker : Int64} {inputs : List NamedTensor}
    (tensors : embedderInputs phonemes pitches speaker = .ok inputs) (history : History S) :
    outcome (b.embed session phonemes pitches speaker) history =
      (embeddingOf phonemes.length (b.run history session inputs),
        history ++ [.run .embedder session inputs (b.run history session inputs)]) := by
  rw [Backend.embed, tensors, outcome_bind, outcome_liftM]
  simp only []
  rw [outcome_bind, outcome_runForOutput, embeddingOf]
  cases outputOf .embedder "feature_embedded" (b.run history session inputs) <;> rfl

theorem yields_embed (session : S) (phonemes : List Int) (pitches : List Float32)
    (speaker : Int64) :
    Yields (b.embed session phonemes pitches speaker) (fun _ => True)
      Fault.IsOfWork := by
  refine .seq (.liftFault ?_) ?_
  · exact (failsOnly_embedderInputs ..).mono fun _ => isOfWork_of_shape
  intro inputs
  refine .seq (yields_runForOutput b _ _ _ _) ?_
  intro r
  exact .liftFault (failsOnly_featureRows ..)

theorem decode_eq (session : S) (frames : Matrix) :
    b.decode session frames =
      if frames.rows.length = 0 then pure []
      else (do
        let input ← liftM (NamedTensor.float32 "feature_embedded"
          [1, frames.rows.length, frames.columns] frames.values)
        let (_, wave) ← b.runForOutput .decoder session [input] "wave"
        pure wave) := rfl

/-- The samples in an answer of the decoder. -/
def waveOf (answer : Except String (List NamedTensor)) : Except Fault (List Float32) := do
  let (_, wave) ← outputOf .decoder "wave" answer
  .ok wave

theorem outcome_decode {session : S} {frames : Matrix} {input : NamedTensor}
    (nonempty : frames.rows.length ≠ 0)
    (tensor : NamedTensor.float32 "feature_embedded" [1, frames.rows.length, frames.columns]
      frames.values = .ok input) (history : History S) :
    outcome (b.decode session frames) history =
      (waveOf (b.run history session [input]),
        history ++ [.run .decoder session [input] (b.run history session [input])]) := by
  rw [decode_eq, if_neg nonempty, tensor, outcome_bind, outcome_liftM]
  simp only []
  rw [outcome_bind, outcome_runForOutput, waveOf]
  cases outputOf .decoder "wave" (b.run history session [input]) <;> rfl

theorem history_decode (session : S) {frames : Matrix} {input : NamedTensor}
    (nonempty : frames.rows.length ≠ 0)
    (tensor : NamedTensor.float32 "feature_embedded" [1, frames.rows.length, frames.columns]
      frames.values = .ok input) (history : History S) :
    (outcome (b.decode session frames) history).2 =
      history ++ [.run .decoder session [input] (b.run history session [input])] := by
  rw [outcome_decode b nonempty tensor]

theorem yields_decode (session : S) (frames : Matrix) :
    Yields (b.decode session frames) (fun _ => True) Fault.IsOfWork := by
  rw [decode_eq]
  split
  · exact .pure trivial
  · refine .seq (.liftFault ?_) ?_
    · exact (failsOnly_ofData _ _ _).mono fun _ => isOfWork_of_shape
    intro input
    exact .seq (yields_runForOutput b _ _ _ _) fun r => .pure trivial

theorem decodeForward_eq (sessions : Sessions S) (phonemes : List Int)
    (pitches durations : List Float32) (speaker : Int64) :
    b.decodeForward sessions phonemes pitches durations speaker =
      if pitches.length ≠ phonemes.length ∨ durations.length ≠ phonemes.length then
        throw (.inference .embedder
          (.unalignedProsody phonemes.length pitches.length durations.length))
      else if phonemes.length = 0 then pure []
      else (do
        let features ← b.embed sessions.embedder phonemes pitches speaker
        let frames ← liftM (features.regulate durations)
        b.decode sessions.decoder frames) := by
  by_cases unaligned : pitches.length ≠ phonemes.length ∨ durations.length ≠ phonemes.length
  · simp only [Backend.decodeForward, if_pos unaligned]
    rfl
  · simp only [Backend.decodeForward, if_neg unaligned]

theorem yields_decodeForward {sessions : Sessions S} {phonemes : List Int}
    {pitches durations : List Float32} {speaker : Int64}
    (alignedPitches : pitches.length = phonemes.length)
    (alignedDurations : durations.length = phonemes.length) :
    Yields (b.decodeForward sessions phonemes pitches durations speaker) (fun _ => True)
      Fault.IsOfWork := by
  rw [decodeForward_eq, if_neg (by simp [alignedPitches, alignedDurations])]
  split
  · exact .pure trivial
  · refine .seq (yields_embed b _ _ _ _) ?_
    intro features
    refine .seq (.liftFault ?_) ?_
    · refine (Matrix.failsOnly_regulate features durations).mono fun f kind => ?_
      rcases kind with shape | ⟨seconds, rfl⟩
      · exact isOfWork_of_shape shape
      · exact ⟨trivial, id⟩
    intro frames
    exact yields_decode b _ _

end

end KanaVoice
