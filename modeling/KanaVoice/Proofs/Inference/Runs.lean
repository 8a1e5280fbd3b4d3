import KanaVoice.Proofs.Inference.Stages
set_option autoImplicit false

/-!
# Runs of the stages

A stage that succeeds has handed certain tensors to its session and has taken certain outputs from
the answer.  Here a run is described by what these tensors hold, apart from the checks that lie
between them.
-/

namespace KanaVoice

/-! ## Tensors -/

/-- What a tensor holds: its name, its shape and its data. -/
def NamedTensor.contents (t : NamedTensor) : String × List Nat × TensorData :=
  (t.name, t.shape, t.data)

theorem contents_of_ofData {name : String} {shape : List Nat} {data : TensorData}
    {t : NamedTensor} (h : NamedTensor.ofData name shape data = .ok t) :
    t.contents = (name, shape, data) := by
  unfold NamedTensor.ofData at h
  split at h
  · cases h
  · cases h
    rfl

theorem contents_of_speakerTensor {speaker : Int64} {t : NamedTensor}
    (h : speakerTensor speaker = .ok t) : t.contents = ("speaker", [1], .int64 [speaker.toInt]) :=
  contents_of_ofData h

theorem contents_of_varianceInputs {phonemes accents : List Int} {speaker : Int64}
    {inputs : List NamedTensor} (h : varianceInputs phonemes accents speaker = .ok inputs) :
    inputs.map NamedTensor.contents =
      [("phonemes", [1, phonemes.length], .int64 phonemes),
       ("accents", [1, phonemes.length], .int64 accents),
       ("speaker", [1], .int64 [speaker.toInt])] := by
  obtain ⟨first, isFirst, h⟩ := except_bind_eq_ok_iff.1 h
  obtain ⟨second, isSecond, h⟩ := except_bind_eq_ok_iff.1 h
  obtain ⟨third, isThird, ⟨⟩⟩ := except_bind_eq_ok_iff.1 h
  simp only [List.map_cons, List.map_nil]
  rw [contents_of_ofData isFirst, contents_of_ofData isSecond, contents_of_speakerTensor isThird]

theorem contents_of_embedderInputs {phonemes : List Int} {pitches : List Float32}
    {speaker : Int64} {inputs : List NamedTensor}
    (h : embedderInputs phonemes pitches speaker = .ok inputs) :
    inputs.map NamedTensor.contents =
      [("phonemes", [1, phonemes.length], .int64 phonemes),
       ("pitches", [1, phonemes.length], .float32 pitches),
       ("speaker", [1], .int64 [speaker.toInt])] := by
  obtain ⟨first, isFirst, h⟩ := except_bind_eq_ok_iff.1 h
  obtain ⟨second, isSecond, h⟩ := except_bind_eq_ok_iff.1 h
  obtain ⟨third, isThird, ⟨⟩⟩ := except_bind_eq_ok_iff.1 h
  simp only [List.map_cons, List.map_nil]
  rw [contents_of_ofData isFirst, contents_of_ofData isSecond, contents_of_speakerTensor isThird]

/-- The values of the last single-precision output of a name. -/
def lastFloats? (name : String) (outputs : List NamedTensor) : Option (List Float32) :=
  (outputs.filterMap fun t => if t.name = name then t.floats? else none).getLast?

theorem lastFloats?_cons (name : String) (t : NamedTensor) (rest : List NamedTensor) :
    lastFloats? name (t :: rest) =
      (lastFloats? name rest).or (if t.name = name then t.floats? else none) := by
  unfold lastFloats?
  rw [List.filterMap_cons]
  split
  case h_1 none =>
    rw [none, Option.or_none]
  case h_2 values some =>
    rw [some, List.getLast?_cons]
    cases (rest.filterMap fun t => if t.name = name then t.floats? else .none).getLast? <;> rfl

theorem perPhoneme_bind_eq_ok_iff {name : String} {values : List Float32} {n : Nat}
    {f : List Float32 → Except Fault Prediction} {p : Prediction} :
    (perPhoneme name values n >>= f) = .ok p ↔ values.length = n ∧ f values = .ok p := by
  rw [except_bind_eq_ok_iff]
  constructor
  · rintro ⟨_, fits, more⟩
    obtain ⟨length, rfl⟩ := perPhoneme_eq_ok_iff.1 fits
    exact ⟨length, more⟩
  · rintro ⟨length, more⟩
    exact ⟨values, perPhoneme_eq_ok_iff.2 ⟨length, rfl⟩, more⟩

/-- All outputs of either name that hold numbers of single precision have `n` of them. -/
def AreSized (n : Nat) (outputs : List NamedTensor) : Prop :=
  ∀ t ∈ outputs, t.name = "pitches" ∨ t.name = "durations" →
    ∀ values ∈ t.floats?, values.length = n

theorem areSized_cons {n : Nat} {t : NamedTensor} {rest : List NamedTensor} :
    AreSized n (t :: rest) ↔
      (t.name = "pitches" ∨ t.name = "durations" → ∀ values ∈ t.floats?, values.length = n) ∧
        AreSized n rest :=
  List.forall_mem_cons

/-- Prosody is collected from the last outputs of its two names, else from what was collected
before, if no output of these names has another size. -/
theorem collectProsody_eq_ok_iff {n : Nat} {pitches durations : Option (List Float32)}
    {outputs : List NamedTensor} {p : Prediction} :
    collectProsody n pitches durations outputs = .ok p ↔
      (lastFloats? "pitches" outputs).or pitches = some p.pitches ∧
      (lastFloats? "durations" outputs).or durations = some p.durations ∧
      AreSized n outputs := by
  induction outputs generalizing pitches durations with
  | nil =>
    have sized : AreSized n [] := nofun
    cases p
    cases pitches <;> cases durations <;> simp [collectProsody, lastFloats?, sized]
  | cons t rest ih =>
    rw [lastFloats?_cons, lastFloats?_cons, Option.or_assoc, Option.or_assoc, areSized_cons,
      collectProsody]
    cases floats : t.floats? with
    | none => simp [ih]
    | some values =>
      by_cases isPitches : t.name = "pitches"
      · have other : t.name ≠ "durations" := by simp [isPitches]
        have named : t.name = "pitches" ∨ t.name = "durations" := .inl isPitches
        simp only [if_pos isPitches, if_neg other, perPhoneme_bind_eq_ok_iff, ih, Option.some_or,
          Option.none_or, named, Option.mem_some_iff, forall_eq', forall_const]
        tauto
      · by_cases isDurations : t.name = "durations"
        · have named : t.name = "pitches" ∨ t.name = "durations" := .inr isDurations
          simp only [if_neg isPitches, if_pos isDurations, perPhoneme_bind_eq_ok_iff, ih,
            Option.some_or, Option.none_or, named, Option.mem_some_iff, forall_eq', forall_const]
          tauto
        · simp [isPitches, isDurations, ih]

/-! ## Runs -/

section

variable {S : Type}

/-- The variance run for phonemes with their accent marks, and the prediction in its answer. -/
def IsVarianceRun (session : S) (phonemes accents : List Int) (speaker : Int64) (p : Prediction)
    (event : Event S) : Prop :=
  ∃ inputs outputs, event = .run .variance session inputs (.ok outputs) ∧
    inputs.map NamedTensor.contents =
      [("phonemes", [1, phonemes.length], .int64 phonemes),
       ("accents", [1, phonemes.length], .int64 accents),
       ("speaker", [1], .int64 [speaker.toInt])] ∧
    lastFloats? "pitches" outputs = some p.pitches ∧ p.pitches.length = phonemes.length ∧
    lastFloats? "durations" outputs = some p.durations ∧ p.durations.length = phonemes.length

/-- The embedder run for phonemes with their pitches, and the rows in its answer: one for each
phoneme. -/
def IsEmbedderRun (session : S) (phonemes : List Int) (pitches : List Float32) (speaker : Int64)
    (features : Matrix) (event : Event S) : Prop :=
  ∃ inputs outputs output, event = .run .embedder session inputs (.ok outputs) ∧
    inputs.map NamedTensor.contents =
      [("phonemes", [1, phonemes.length], .int64 phonemes),
       ("pitches", [1, phonemes.length], .float32 pitches),
       ("speaker", [1], .int64 [speaker.toInt])] ∧
    outputs.find? (·.name = "feature_embedded") = some output ∧
    output.floats? = some features.values ∧ output.shape.getLastD 0 = features.columns ∧
    features.rows.length = phonemes.length

/-- The calls that make frames into a wave: one decoder run, or none if there are no frames. -/
def IsDecoding (session : S) (frames : Matrix) (wave : List Float32) (events : List (Event S)) :
    Prop :=
  if frames.rows.length = 0 then events = [] ∧ wave = []
  else ∃ inputs outputs output, events = [.run .decoder session inputs (.ok outputs)] ∧
    inputs.map NamedTensor.contents =
      [("feature_embedded", [1, frames.rows.length, frames.columns], .float32 frames.values)] ∧
    outputs.find? (·.name = "wave") = some output ∧ output.floats? = some wave

/-! ## What a success says -/

variable (b : Backend S) {history history' : History S}

theorem isVarianceRun_of_ok {sessions : Sessions S} {phonemes accents : List Int}
    {speaker : Int64} {p : Prediction} (nonempty : phonemes ≠ [])
    (h : outcome (b.variance sessions phonemes accents speaker) history = (.ok p, history')) :
    ∃ event, IsVarianceRun sessions.variance phonemes accents speaker p event ∧
      history' = history ++ [event] := by
  obtain ⟨inputs, outputs, tensors, collected, rfl⟩ := outcome_variance_of_ok b nonempty h
  obtain ⟨pitches, durations, -⟩ := collectProsody_eq_ok_iff.1 collected
  rw [Option.or_none] at pitches durations
  have lengths := length_collectProsody (by simp) (by simp) collected
  exact ⟨_, ⟨inputs, outputs, rfl, contents_of_varianceInputs tensors, pitches, lengths.1,
    durations, lengths.2⟩, rfl⟩

theorem featureRows_eq_ok {n : Nat} {shape : List Nat} {values : List Float32} {features : Matrix}
    (h : featureRows n shape values = .ok features) :
    values = features.values ∧ shape.getLastD 0 = features.columns ∧ features.rows.length = n := by
  unfold featureRows at h
  simp only [] at h
  split at h
  · cases h
  · split at h
    case h_1 fits =>
      cases h
      exact Matrix.ofValues?_eq_some fits
    case h_2 => cases h
    case h_3 => cases h

theorem isEmbedderRun_of_ok {session : S} {phonemes : List Int} {pitches : List Float32}
    {speaker : Int64} {features : Matrix}
    (h : outcome (b.embed session phonemes pitches speaker) history = (.ok features, history')) :
    ∃ event, IsEmbedderRun session phonemes pitches speaker features event ∧
      history' = history ++ [event] := by
  obtain ⟨inputs, _, first, more⟩ := outcome_bind_eq_ok_iff.1 h
  obtain ⟨tensors, rfl⟩ := outcome_liftM_eq_ok_iff.1 first
  obtain ⟨⟨shape, values⟩, _, run, last⟩ := outcome_bind_eq_ok_iff.1 more
  obtain ⟨outputs, output, found, floats, rfl, rfl⟩ := outcome_runForOutput_of_ok b run
  obtain ⟨rows, rfl⟩ := outcome_liftM_eq_ok_iff.1 last
  obtain ⟨rfl, columns, length⟩ := featureRows_eq_ok rows
  exact ⟨_, ⟨inputs, outputs, output, rfl, contents_of_embedderInputs tensors, found, floats,
    columns, length⟩, rfl⟩

theorem isDecoding_of_ok {session : S} {frames : Matrix} {wave : List Float32}
    (h : outcome (b.decode session frames) history = (.ok wave, history')) :
    ∃ events, IsDecoding session frames wave events ∧ history' = history ++ events := by
  rw [decode_eq] at h
  split at h
  case isTrue empty =>
    rw [outcome_pure, Prod.mk.injEq, Except.ok.injEq] at h
    obtain ⟨rfl, rfl⟩ := h
    refine ⟨[], ?_, (List.append_nil _).symm⟩
    rw [IsDecoding, if_pos empty]
    exact ⟨rfl, rfl⟩
  case isFalse nonempty =>
    obtain ⟨input, _, first, more⟩ := outcome_bind_eq_ok_iff.1 h
    obtain ⟨tensor, rfl⟩ := outcome_liftM_eq_ok_iff.1 first
    obtain ⟨⟨shape, values⟩, _, run, last⟩ := outcome_bind_eq_ok_iff.1 more
    obtain ⟨outputs, output, found, floats, -, rfl⟩ := outcome_runForOutput_of_ok b run
    rw [outcome_pure, Prod.mk.injEq, Except.ok.injEq] at last
    obtain ⟨rfl, rfl⟩ := last
    refine ⟨[.run .decoder session [input] (.ok outputs)], ?_, rfl⟩
    rw [IsDecoding, if_neg nonempty]
    refine ⟨[input], outputs, output, rfl, ?_, found, floats⟩
    rw [List.map_singleton, contents_of_ofData tensor]

theorem outcome_decodeForward_of_ok {sessions : Sessions S} {phonemes : List Int}
    {pitches durations : List Float32} {speaker : Int64} {wave : List Float32}
    (nonempty : phonemes ≠ [])
    (h : outcome (b.decodeForward sessions phonemes pitches durations speaker) history =
      (.ok wave, history')) :
    ∃ features frames embedder decoding,
      IsEmbedderRun sessions.embedder phonemes pitches speaker features embedder ∧
      features.regulate durations = .ok frames ∧
      IsDecoding sessions.decoder frames wave decoding ∧
      history' = history ++ embedder :: decoding := by
  rw [decodeForward_eq] at h
  split at h
  · simp at h
  · rw [if_neg (by simpa using nonempty)] at h
    obtain ⟨features, _, first, more⟩ := outcome_bind_eq_ok_iff.1 h
    obtain ⟨embedder, isEmbedder, rfl⟩ := isEmbedderRun_of_ok b first
    obtain ⟨frames, _, second, last⟩ := outcome_bind_eq_ok_iff.1 more
    obtain ⟨regulated, rfl⟩ := outcome_liftM_eq_ok_iff.1 second
    obtain ⟨decoding, isDecoding, rfl⟩ := isDecoding_of_ok b last
    refine ⟨features, frames, embedder, decoding, isEmbedder, regulated, isDecoding, ?_⟩
    rw [List.append_assoc, List.singleton_append]

end

end KanaVoice
