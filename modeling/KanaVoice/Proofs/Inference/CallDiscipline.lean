import KanaVoice.Proofs.Inference.Runs
import KanaVoice.Proofs.Sound.Repetition
set_option autoImplicit false

/-!
# The calls of a forward pass

A forward pass hands its arguments to the embedder, repeats the rows in the answer and hands the
frames to the decoder.  What it makes of an answer depends on nothing but that answer, so that its
outcome is said by cases on what the embedder answers: every failure on the way ends the pass, and
without frames the decoder is not run.
-/

namespace KanaVoice

/-! ## Tensors that fit -/

theorem cells_le_cells_filter (shape : List Nat) :
    cells shape ≤ cells (shape.filter (· ≠ 0)) := by
  induction shape with
  | nil => exact Nat.le_refl _
  | cons axis rest ih =>
    by_cases empty : axis = 0
    · rw [empty]
      exact (Nat.zero_mul _).le.trans (Nat.zero_le _)
    · rw [List.filter_cons_of_pos (by simpa using empty)]
      exact Nat.mul_le_mul_left axis ih

/-- A tensor has no more values than a signed machine word can count. -/
theorem NamedTensor.count_le (t : NamedTensor) : t.data.count ≤ maxSize := by
  have fits := t.fits
  have cells := cells_le_cells_filter t.shape
  unfold shapeFault? at fits
  split at fits
  · cases fits
  · split at fits
    · cases fits
    · split at fits
      · cases fits
      · omega

/-- Values that are as many as the cells fill a shape without empty axes, if they can be counted. -/
theorem shapeFault?_of_axes {shape : List Nat} {count : Nat} (axes : ∀ axis ∈ shape, axis ≠ 0)
    (same : cells shape = count) :
    shapeFault? shape count = if maxSize < count then some .overflow else none := by
  have kept : shape.filter (· ≠ 0) = shape := List.filter_eq_self.2 (by simpa using axes)
  rw [shapeFault?, kept, same, if_neg (Nat.lt_irrefl _), if_neg (Nat.lt_irrefl _)]

/-- A row of so many values fits. -/
theorem shapeFault?_row {n : Nat} (nonempty : n ≠ 0) (addressable : n ≤ maxSize) :
    shapeFault? [1, n] n = none := by
  rw [shapeFault?_of_axes (by simp [nonempty]) (by simp [cells]), if_neg (by omega)]

/-! ## Accepted answers -/

/-- The answer is taken for these feature rows: its first output of the name has numbers of single
precision, its last axis is not empty, and there is one row of that width for each phoneme. -/
def IsAccepted (n : Nat) (answer : Except String (List NamedTensor)) (features : Matrix) : Prop :=
  ∃ outputs output, answer = .ok outputs ∧
    outputs.find? (·.name = "feature_embedded") = some output ∧
    output.floats? = some features.values ∧ output.shape.getLastD 0 = features.columns ∧
    features.columns ≠ 0 ∧ features.rows.length = n

theorem count_of_floats? {t : NamedTensor} {values : List Float32} (h : t.floats? = some values) :
    values.length ≤ maxSize := by
  have fits := t.count_le
  unfold NamedTensor.floats? at h
  split at h
  case h_1 data =>
    cases h
    rwa [data] at fits
  case h_2 => cases h

theorem featureRows_eq_ok_iff {n : Nat} (nonempty : n ≠ 0) {shape : List Nat}
    {values : List Float32} (fits : values.length ≤ maxSize) {features : Matrix} :
    featureRows n shape values = .ok features ↔ values = features.values ∧
      shape.getLastD 0 = features.columns ∧ features.columns ≠ 0 ∧ features.rows.length = n := by
  constructor
  · intro rows
    obtain ⟨same, columns, length⟩ := featureRows_eq_ok rows
    refine ⟨same, columns, fun none => ?_, length⟩
    rw [featureRows] at rows
    simp only [columns, none, true_or, if_true] at rows
    cases rows
  · rintro ⟨rfl, columns, wide, rfl⟩
    have size := features.length_values
    have bound : maxSize < countBound := by decide
    rw [featureRows]
    simp only [columns]
    have table : shapeFault? [features.rows.length, features.columns] features.values.length =
        none := by
      rw [shapeFault?_of_axes (by simp [nonempty, wide]) (by simp [cells, size]),
        if_neg (by omega)]
    rw [if_neg, table, features.ofValues?_values]
    rw [not_or, not_not, ← size, Nat.mod_eq_of_lt (by omega)]
    exact ⟨wide, rfl⟩

/-- What the embedder answers for some phonemes is accepted on exactly these conditions. -/
theorem embeddingOf_eq_ok_iff {n : Nat} (nonempty : n ≠ 0)
    {answer : Except String (List NamedTensor)} {features : Matrix} :
    embeddingOf n answer = .ok features ↔ IsAccepted n answer features := by
  rw [embeddingOf, except_bind_eq_ok_iff]
  constructor
  · rintro ⟨⟨shape, values⟩, read, rows⟩
    obtain ⟨outputs, output, answered, found, rfl, floats⟩ := outputOf_eq_ok_iff.1 read
    obtain ⟨rfl, columns, wide, length⟩ :=
      (featureRows_eq_ok_iff nonempty (count_of_floats? floats)).1 rows
    exact ⟨outputs, output, answered, found, floats, columns, wide, length⟩
  · rintro ⟨outputs, output, answered, found, floats, columns, wide, length⟩
    refine ⟨(output.shape, features.values), ?_, ?_⟩
    · exact outputOf_eq_ok_iff.2 ⟨outputs, output, answered, found, rfl, floats⟩
    · exact (featureRows_eq_ok_iff nonempty (count_of_floats? floats)).2
        ⟨rfl, columns, wide, length⟩

/-! ## Runs -/

section

variable {S : Type} (b : Backend S)

/-- The tensors for the embedder can be made of lists of one length. -/
theorem exists_embedderInputs {phonemes : List Int} {pitches : List Float32} (speaker : Int64)
    (nonempty : phonemes ≠ []) (addressable : phonemes.length ≤ maxSize)
    (aligned : pitches.length = phonemes.length) :
    ∃ inputs, embedderInputs phonemes pitches speaker = .ok inputs := by
  have row : shapeFault? [1, phonemes.length] phonemes.length = none :=
    shapeFault?_row (mt List.eq_nil_of_length_eq_zero nonempty) addressable
  have row' : shapeFault? [1, phonemes.length] pitches.length = none := aligned ▸ row
  refine ⟨[⟨"phonemes", [1, phonemes.length], .int64 phonemes, row⟩,
    ⟨"pitches", [1, phonemes.length], .float32 pitches, row'⟩,
    ⟨"speaker", [1], .int64 [speaker.toInt], rfl⟩], ?_⟩
  rw [embedderInputs, NamedTensor.int64, ofData_of_fits row, NamedTensor.float32,
    ofData_of_fits row', speakerTensor, NamedTensor.int64, ofData_of_fits rfl]
  rfl

/-! ## Frames -/

section

variable (session : S) {frames : Matrix}

theorem outcome_decode_of_empty (empty : frames.rows = []) (history : History S) :
    outcome (b.decode session frames) history = (.ok [], history) := by
  rw [decode_eq, empty]
  rfl

theorem shapeFault?_frames (wide : frames.columns ≠ 0) (nonempty : frames.rows ≠ []) :
    shapeFault? [1, frames.rows.length, frames.columns] frames.values.length =
      if maxSize < frames.rows.length * frames.columns then some .overflow else none := by
  have length := mt List.eq_nil_of_length_eq_zero nonempty
  rw [shapeFault?_of_axes (by simp [length, wide]) (by simp [cells, frames.length_values]),
    frames.length_values]

/-- The decoder is run on the tensor of the frames. -/
theorem exists_outcome_decode (wide : frames.columns ≠ 0) (nonempty : frames.rows ≠ [])
    (fits : frames.rows.length * frames.columns ≤ maxSize) (history : History S) :
    ∃ input, input.contents = ("feature_embedded", [1, frames.rows.length, frames.columns],
        .float32 frames.values) ∧
      outcome (b.decode session frames) history = (waveOf (b.run history session [input]),
        history ++ [.run .decoder session [input] (b.run history session [input])]) := by
  have table := shapeFault?_frames wide nonempty
  rw [if_neg (by omega)] at table
  exact ⟨⟨"feature_embedded", _, .float32 frames.values, table⟩, rfl,
    outcome_decode b (mt List.eq_nil_of_length_eq_zero nonempty) (ofData_of_fits table) history⟩

theorem outcome_decode_of_oversized (oversized : maxSize < frames.rows.length * frames.columns)
    (history : History S) :
    outcome (b.decode session frames) history = (.error (.shape .overflow), history) := by
  have wide : frames.columns ≠ 0 := by
    intro none
    rw [none] at oversized
    omega
  have nonempty : frames.rows ≠ [] := by
    intro none
    rw [none, List.length_nil, Nat.zero_mul] at oversized
    omega
  have table := shapeFault?_frames wide nonempty
  rw [if_pos oversized] at table
  have unfit : NamedTensor.float32 "feature_embedded" [1, frames.rows.length, frames.columns]
      frames.values = .error (.shape .overflow) := ofData_of_unfit table
  rw [decode_eq, if_neg (mt List.eq_nil_of_length_eq_zero nonempty), unfit]
  rfl

end

/-! ## The rest of a pass -/

/-- What a forward pass does once the embedder has answered. -/
def Backend.afterEmbedder (b : Backend S) (decoder : S) (n : Nat) (durations : List Float32)
    (answer : Except String (List NamedTensor)) : Calls S (List Float32) := do
  let features ← liftM (embeddingOf n answer)
  let frames ← liftM (features.regulate durations)
  b.decode decoder frames

theorem outcome_decodeForward_of_inputs {sessions : Sessions S} {phonemes : List Int}
    {pitches durations : List Float32} {speaker : Int64} {inputs : List NamedTensor}
    (nonempty : phonemes ≠ []) (alignedPitches : pitches.length = phonemes.length)
    (alignedDurations : durations.length = phonemes.length)
    (tensors : embedderInputs phonemes pitches speaker = .ok inputs) (history : History S) :
    outcome (b.decodeForward sessions phonemes pitches durations speaker) history =
      outcome (b.afterEmbedder sessions.decoder phonemes.length durations
          (b.run history sessions.embedder inputs))
        (history ++
          [.run .embedder sessions.embedder inputs (b.run history sessions.embedder inputs)]) := by
  rw [decodeForward_eq, if_neg (by simp [alignedPitches, alignedDurations]),
    if_neg (mt List.eq_nil_of_length_eq_zero nonempty), outcome_bind, outcome_embed b tensors,
    Backend.afterEmbedder, outcome_bind, outcome_liftM]

section

variable {decoder : S} {n : Nat} {durations : List Float32}
  {answer : Except String (List NamedTensor)} {features frames : Matrix} {fault : Fault}

theorem outcome_afterEmbedder_of_error (refused : embeddingOf n answer = .error fault)
    (called : History S) :
    outcome (b.afterEmbedder decoder n durations answer) called = (.error fault, called) := by
  rw [Backend.afterEmbedder, refused]
  rfl

theorem outcome_afterEmbedder_of_unregulated (nonempty : n ≠ 0)
    (accepted : IsAccepted n answer features) (refused : features.regulate durations = .error fault)
    (called : History S) :
    outcome (b.afterEmbedder decoder n durations answer) called = (.error fault, called) := by
  rw [Backend.afterEmbedder, (embeddingOf_eq_ok_iff nonempty).2 accepted]
  show outcome (liftM (features.regulate durations) >>= b.decode decoder) called = _
  rw [refused]
  rfl

theorem outcome_afterEmbedder_of_frames (nonempty : n ≠ 0)
    (accepted : IsAccepted n answer features) (regulated : features.regulate durations = .ok frames)
    (called : History S) :
    outcome (b.afterEmbedder decoder n durations answer) called =
      outcome (b.decode decoder frames) called := by
  rw [Backend.afterEmbedder, (embeddingOf_eq_ok_iff nonempty).2 accepted]
  show outcome (liftM (features.regulate durations) >>= b.decode decoder) called = _
  rw [regulated]
  rfl

end

end

/-! ## Discipline -/

section

variable {S : Type}

/-- One decoder run, and nothing else, was added to the history. -/
def RunsDecoder (decoder : S) (called history : History S) : Prop :=
  ∃ input answer, history = called ++ [.run .decoder decoder [input] answer]

/-- How a forward pass goes on when the embedder has answered for `n` phonemes.  `called` is the
history with that call. -/
structure GoesOn (b : Backend S) (decoder : S) (n : Nat) (durations : List Float32)
    (answer : Except String (List NamedTensor)) (called : History S)
    (result : Except Fault (List Float32) × History S) : Prop where
  /-- A failed run ends it. -/
  failed : ∀ text, answer = .error text →
    result = (.error (.inference .embedder (.reported text)), called)
  /-- An answer is refused or taken for rows that are all there. -/
  accepted : ∀ features, embeddingOf n answer = .ok features ↔ IsAccepted n answer features
  /-- One that is refused ends it too. -/
  refused : ∀ fault, embeddingOf n answer = .error fault → result = (.error fault, called)
  /-- So does a fault of the lengths. -/
  unregulated : ∀ features fault, IsAccepted n answer features →
    features.regulate durations = .error fault → result = (.error fault, called)
  /-- Without frames the wave is empty. -/
  silent : ∀ features frames, IsAccepted n answer features →
    features.regulate durations = .ok frames → frames.rows = [] → result = (.ok [], called)
  /-- Frames are the single input of one decoder run, whose answer gives the wave. -/
  decoded : ∀ features frames, IsAccepted n answer features →
    features.regulate durations = .ok frames → frames.rows ≠ [] →
    frames.rows.length * frames.columns ≤ maxSize →
    ∃ input, input.contents = ("feature_embedded", [1, frames.rows.length, frames.columns],
        .float32 frames.values) ∧
      result = (waveOf (b.run called decoder [input]),
        called ++ [.run .decoder decoder [input] (b.run called decoder [input])])
  /-- The decoder is run once at most, whatever the sizes are. -/
  atMostOnce : result.2 = called ∨ RunsDecoder decoder called result.2
  /-- It is run exactly if the answer is accepted, all lengths are in range and there are frames. -/
  exactly : (∀ features, IsAccepted n answer features →
      (durations.map frameCount).sum * features.columns ≤ maxSize) →
    (RunsDecoder decoder called result.2 ↔ (∃ features, IsAccepted n answer features) ∧
      (∀ s ∈ durations, InRange s) ∧ 0 < (durations.map frameCount).sum)

/-- The calls of a forward pass and what it answers. -/
structure CallDiscipline (b : Backend S) (history : History S) (sessions : Sessions S)
    (phonemes : List Int) (pitches durations : List Float32) (speaker : Int64)
    (result : Except Fault (List Float32) × History S) : Prop where
  /-- Lists of different lengths are a fault, and nothing is run. -/
  unaligned : pitches.length ≠ phonemes.length ∨ durations.length ≠ phonemes.length →
    result = (.error (.inference .embedder
      (.unalignedProsody phonemes.length pitches.length durations.length)), history)
  /-- Nor is anything run without phonemes. -/
  empty : pitches.length = phonemes.length → durations.length = phonemes.length →
    phonemes = [] → result = (.ok [], history)
  /-- Else the embedder is run once, on the arguments, and the rest follows from its answer. -/
  embedded : pitches.length = phonemes.length → durations.length = phonemes.length →
    phonemes ≠ [] →
    ∃ inputs, inputs.map NamedTensor.contents =
        [("phonemes", [1, phonemes.length], .int64 phonemes),
         ("pitches", [1, phonemes.length], .float32 pitches),
         ("speaker", [1], .int64 [speaker.toInt])] ∧
      GoesOn b sessions.decoder phonemes.length durations
        (b.run history sessions.embedder inputs)
        (history ++ [.run .embedder sessions.embedder inputs
          (b.run history sessions.embedder inputs)])
        result

section

variable (b : Backend S) {decoder : S} {called : History S} {n : Nat} {durations : List Float32}
  {answer : Except String (List NamedTensor)}

theorem columns_ne_zero_of_regulate {features frames : Matrix}
    (accepted : IsAccepted n answer features)
    (regulated : features.regulate durations = .ok frames) : frames.columns ≠ 0 := by
  obtain ⟨_, _, -, -, -, -, wide, -⟩ := accepted
  rwa [(Matrix.rows_of_regulate regulated).1]

/-- The decoder is not run, or it is run on the frames of the accepted rows. -/
theorem runsDecoder_cases (nonempty : n ≠ 0) (decoder : S) (called : History S)
    (durations : List Float32) (answer : Except String (List NamedTensor)) :
    (outcome (b.afterEmbedder decoder n durations answer) called).2 = called ∨
      RunsDecoder decoder called (outcome (b.afterEmbedder decoder n durations answer) called).2 ∧
        ∃ features frames, IsAccepted n answer features ∧
          features.regulate durations = .ok frames ∧ frames.rows ≠ [] := by
  cases read : embeddingOf n answer with
  | error fault =>
    rw [outcome_afterEmbedder_of_error b read]
    exact .inl rfl
  | ok features =>
    have accepted := (embeddingOf_eq_ok_iff nonempty).1 read
    cases regulated : features.regulate durations with
    | error fault =>
      rw [outcome_afterEmbedder_of_unregulated b nonempty accepted regulated]
      exact .inl rfl
    | ok frames =>
      rw [outcome_afterEmbedder_of_frames b nonempty accepted regulated]
      by_cases empty : frames.rows = []
      · rw [outcome_decode_of_empty b _ empty]
        exact .inl rfl
      · by_cases fits : frames.rows.length * frames.columns ≤ maxSize
        · have wide := columns_ne_zero_of_regulate accepted regulated
          obtain ⟨input, -, run⟩ := exists_outcome_decode b decoder wide empty fits called
          rw [run]
          exact .inr ⟨⟨input, _, rfl⟩, features, frames, accepted, regulated, empty⟩
        · rw [outcome_decode_of_oversized b _ (by omega)]
          exact .inl rfl

theorem not_runsDecoder_self : ¬ RunsDecoder decoder called called := by
  rintro ⟨input, answer, same⟩
  exact absurd (congrArg List.length same) (by simp)

theorem runsDecoder_iff (nonempty : n ≠ 0) (aligned : durations.length = n)
    (fits : ∀ features, IsAccepted n answer features →
      (durations.map frameCount).sum * features.columns ≤ maxSize) :
    RunsDecoder decoder called (outcome (b.afterEmbedder decoder n durations answer) called).2 ↔
      (∃ features, IsAccepted n answer features) ∧ (∀ s ∈ durations, InRange s) ∧
        0 < (durations.map frameCount).sum := by
  constructor
  · intro runs
    rcases runsDecoder_cases b nonempty decoder called durations answer with
      none | ⟨-, features, frames, accepted, regulated, some⟩
    -- A history does not end with a run that was not made.
    · rw [none] at runs
      exact absurd runs not_runsDecoder_self
    · obtain ⟨-, inRange, -⟩ := Matrix.regulate_eq_ok_iff.1 regulated
      refine ⟨⟨features, accepted⟩, inRange, ?_⟩
      rw [← Matrix.length_rows_of_regulate regulated]
      exact List.length_pos_of_ne_nil some
  · rintro ⟨⟨features, accepted⟩, inRange, some⟩
    have sizes := fits features accepted
    obtain ⟨_, _, -, -, -, -, columns, length⟩ := id accepted
    -- A row is not empty, so that frames that fit with their columns can be counted by themselves.
    have bound : maxSize < countBound := by decide
    have counted : (durations.map frameCount).sum ≤
        (durations.map frameCount).sum * features.columns :=
      Nat.le_mul_of_pos_right _ (Nat.pos_of_ne_zero columns)
    obtain ⟨frames, regulated⟩ :=
      Matrix.exists_regulate (aligned.trans length.symm) inRange (by omega) (by omega)
    have rows := Matrix.length_rows_of_regulate regulated
    have nonempty' : frames.rows ≠ [] := by
      intro empty
      rw [empty, List.length_nil] at rows
      omega
    rw [outcome_afterEmbedder_of_frames b nonempty accepted regulated]
    obtain ⟨input, -, run⟩ := exists_outcome_decode b decoder
      (columns_ne_zero_of_regulate accepted regulated) nonempty'
      (by rwa [rows, (Matrix.rows_of_regulate regulated).1]) called
    rw [run]
    exact ⟨input, _, rfl⟩

theorem goesOn (nonempty : n ≠ 0) (aligned : durations.length = n) :
    GoesOn b decoder n durations answer called
      (outcome (b.afterEmbedder decoder n durations answer) called) := by
  constructor
  case failed =>
    rintro text rfl
    exact outcome_afterEmbedder_of_error b rfl called
  case accepted => exact fun features => embeddingOf_eq_ok_iff nonempty
  case refused => exact fun fault read => outcome_afterEmbedder_of_error b read called
  case unregulated =>
    exact fun features fault accepted refused =>
      outcome_afterEmbedder_of_unregulated b nonempty accepted refused called
  case silent =>
    intro features frames accepted regulated empty
    rw [outcome_afterEmbedder_of_frames b nonempty accepted regulated]
    exact outcome_decode_of_empty b _ empty called
  case decoded =>
    intro features frames accepted regulated some fits
    rw [outcome_afterEmbedder_of_frames b nonempty accepted regulated]
    have wide := columns_ne_zero_of_regulate accepted regulated
    exact exists_outcome_decode b decoder wide some fits called
  case atMostOnce =>
    rcases runsDecoder_cases b nonempty decoder called durations answer with none | ⟨runs, -⟩
    · exact .inl none
    · exact .inr runs
  case exactly => exact runsDecoder_iff b nonempty aligned

/-- A forward pass makes its calls in order, and only those that are called for.  No list is longer
than a signed machine word can count. -/
theorem callDiscipline_decodeForward (history : History S) (sessions : Sessions S)
    {phonemes : List Int} (addressable : phonemes.length ≤ maxSize)
    (pitches durations : List Float32) (speaker : Int64) :
    CallDiscipline b history sessions phonemes pitches durations speaker
      (outcome (b.decodeForward sessions phonemes pitches durations speaker) history) := by
  constructor
  case unaligned =>
    intro unaligned
    rw [decodeForward_eq, if_pos unaligned]
    rfl
  case empty =>
    rintro pitched timed rfl
    rw [decodeForward_eq, if_neg (by simp [pitched, timed])]
    rfl
  case embedded =>
    intro pitched timed nonempty
    obtain ⟨inputs, tensors⟩ := exists_embedderInputs speaker nonempty addressable pitched
    refine ⟨inputs, contents_of_embedderInputs tensors, ?_⟩
    rw [outcome_decodeForward_of_inputs b nonempty pitched timed tensors]
    exact goesOn b (mt List.eq_nil_of_length_eq_zero nonempty) timed

end

end

/-- A backend that answers always the same, as for two phonemes. -/
def pairBackend : Backend Stage where
  devices := {}
  load _ stage _ _ := .ok stage
  run _ session _ := .ok <|
    match session with
    | .variance => []
    | .embedder => [⟨"feature_embedded", [1, 2, 1], .float32 [1, 2], by decide⟩]
    | .decoder => [⟨"wave", [2], .float32 [0.5, 0.25], by decide⟩]

/-- Three frames and one frame, and the wave that the decoder answers. -/
theorem callDiscipline_decodeForward_pair :
    [3, 5].length ≤ maxSize ∧ ∃ inputs input,
      inputs.map NamedTensor.contents =
        [("phonemes", [1, 2], .int64 [3, 5]), ("pitches", [1, 2], .float32 [5, 6]),
         ("speaker", [1], .int64 [7])] ∧
      input.contents = ("feature_embedded", [1, 4, 1], .float32 [1, 1, 1, 2]) ∧
      outcome (pairBackend.decodeForward ⟨.variance, .embedder, .decoder⟩ [3, 5] [5, 6]
          [0.016, 0.005] 7) [] =
        (.ok [0.5, 0.25],
          [.run .embedder .embedder inputs (pairBackend.run [] .embedder inputs),
           .run .decoder .decoder [input] (pairBackend.run [] .decoder [input])]) := by
  have addressable : [(3 : Int), 5].length ≤ maxSize := by decide
  obtain ⟨inputs, contents, goesOn⟩ := (callDiscipline_decodeForward pairBackend []
    ⟨.variance, .embedder, .decoder⟩ addressable [5, 6] [0.016, 0.005] 7).embedded rfl rfl
      (by decide)
  have accepted : IsAccepted 2 (pairBackend.run [] .embedder inputs) ⟨1, [[1], [2]], by simp⟩ :=
    ⟨_, _, rfl, rfl, rfl, rfl, by decide, rfl⟩
  have regulated : Matrix.regulate ⟨1, [[1], [2]], by simp⟩ [0.016, 0.005] =
      .ok ⟨1, [[1], [1], [1], [2]], by simp⟩ := by
    rw [Matrix.regulate_eq_ok_iff]
    decide +kernel
  obtain ⟨input, content, run⟩ := goesOn.decoded _ _ accepted regulated (by decide) (by decide)
  exact ⟨addressable, inputs, input, contents, content, run⟩

end KanaVoice
