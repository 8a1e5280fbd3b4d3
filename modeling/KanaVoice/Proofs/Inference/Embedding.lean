import KanaVoice.Proofs.Inference.CallDiscipline
set_option autoImplicit false

/-!
# Embeddings that are accepted

What the embedder answers is cut into feature rows, one for each phoneme and as wide as the last
axis.  The check before that compares machine words.  It lets everything pass that can be cut, and
besides outputs whose values are as many as what a word keeps of a product that it cannot hold; no
matrix has the shape that is asked for then, which is a fault of the shape and not of the stage.
-/

namespace KanaVoice

/-! ## Rows by their position -/

namespace Matrix

theorem getElem?_chunks (columns : Nat) {rows i : Nat} (values : List Float32)
    (inside : i < rows) :
    (chunks columns rows values)[i]? = some ((values.drop (i * columns)).take columns) := by
  induction rows generalizing i values with
  | zero => cases inside
  | succ rows ih =>
    rw [chunks]
    cases i with
    | zero => rw [List.getElem?_cons_zero, Nat.zero_mul, List.drop_zero]
    | succ i =>
      rw [List.getElem?_cons_succ, ih _ (Nat.lt_of_succ_lt_succ inside), List.drop_drop,
        Nat.succ_mul, Nat.add_comm]

/-- A row has the values behind those of the rows before it. -/
theorem getElem?_rows (m : Matrix) {i : Nat} (inside : i < m.rows.length) :
    m.rows[i]? = some ((m.values.drop (i * m.columns)).take m.columns) := by
  have row := getElem?_chunks m.columns m.values inside
  rwa [values, chunks_flatten m.width] at row

end Matrix

/-! ## The check -/

/-- The word that a product of rows and columns is kept in cannot hold it, and what it keeps is the
number of values. -/
def IsWrapped (n : Nat) (shape : List Nat) (values : List Float32) : Prop :=
  countBound ≤ n * shape.getLastD 0 ∧ values.length = n * shape.getLastD 0 % countBound

section

variable {n : Nat} {shape : List Nat} {values : List Float32}

theorem exists_featureRows (fits : values.length ≤ maxSize) (nonempty : n ≠ 0)
    (wide : 0 < shape.getLastD 0) (whole : values.length = n * shape.getLastD 0) :
    ∃ m, featureRows n shape values = .ok m := by
  obtain ⟨m, cut⟩ : ∃ m, Matrix.ofValues? n (shape.getLastD 0) values = some m :=
    ⟨_, dif_pos whole⟩
  obtain ⟨same, columns, rows⟩ := Matrix.ofValues?_eq_some cut
  exact ⟨m, (featureRows_eq_ok_iff nonempty fits).2 ⟨same, columns, by omega, rows⟩⟩

theorem exists_featureRows_iff (fits : values.length ≤ maxSize) (nonempty : n ≠ 0) :
    (∃ m, featureRows n shape values = .ok m) ↔
      0 < shape.getLastD 0 ∧ values.length = n * shape.getLastD 0 := by
  constructor
  · rintro ⟨m, rows⟩
    obtain ⟨rfl, columns, wide, length⟩ := (featureRows_eq_ok_iff nonempty fits).1 rows
    rw [columns, m.length_values, length]
    exact ⟨Nat.pos_of_ne_zero wide, rfl⟩
  · rintro ⟨wide, whole⟩
    exact exists_featureRows fits nonempty wide whole

theorem featureRows_of_mismatch
    (mismatch : shape.getLastD 0 = 0 ∨ values.length ≠ n * shape.getLastD 0 % countBound) :
    featureRows n shape values = .error (.inference .embedder (.embeddingShape shape n)) :=
  if_pos mismatch

theorem featureRows_of_isWrapped (wrapped : IsWrapped n shape values) :
    featureRows n shape values = .error (.shape .overflow) := by
  obtain ⟨large, kept⟩ := wrapped
  have positive : 0 < countBound := by decide
  have bound : maxSize < countBound := by decide
  have wide : shape.getLastD 0 ≠ 0 := by
    intro none
    rw [none, Nat.mul_zero] at large
    omega
  have rows : n ≠ 0 := by
    rintro rfl
    rw [Nat.zero_mul] at large
    omega
  rw [featureRows]
  generalize shape.getLastD 0 = columns at large kept wide
  have axes : [n, columns].filter (· ≠ 0) = [n, columns] :=
    List.filter_eq_self.2 (by simp [rows, wide])
  have product : cells [n, columns] = n * columns := by simp [cells]
  have oversized : shapeFault? [n, columns] values.length = some .overflow := by
    rw [shapeFault?, axes, product, if_pos (by omega)]
  have passed : ¬ (columns = 0 ∨ values.length ≠ n * columns % countBound) := by
    rw [not_or, not_not]
    exact ⟨wide, kept⟩
  simp only [if_neg passed, oversized]

/-- The rows of an output are there, or a word wrapped, or the embedder is at fault. -/
theorem featureRows_cases (fits : values.length ≤ maxSize) (nonempty : n ≠ 0) :
    (∃ m, featureRows n shape values = .ok m) ∨ IsWrapped n shape values ∨
      featureRows n shape values = .error (.inference .embedder (.embeddingShape shape n)) := by
  by_cases mismatch : shape.getLastD 0 = 0 ∨ values.length ≠ n * shape.getLastD 0 % countBound
  · exact .inr (.inr (featureRows_of_mismatch mismatch))
  · obtain ⟨wide, kept⟩ := not_or.1 mismatch
    rw [not_not] at kept
    by_cases small : n * shape.getLastD 0 < countBound
    · rw [Nat.mod_eq_of_lt small] at kept
      exact .inl (exists_featureRows fits nonempty (Nat.pos_of_ne_zero wide) kept)
    · exact .inr (.inl ⟨Nat.le_of_not_lt small, kept⟩)

end

/-! ## Answers -/

/-- The first output of the embedder's name in the answer has these numbers of single precision in
this shape. -/
def Offers (answer : Except String (List NamedTensor)) (shape : List Nat)
    (values : List Float32) : Prop :=
  ∃ outputs output, answer = .ok outputs ∧
    outputs.find? (·.name = "feature_embedded") = some output ∧ output.shape = shape ∧
    output.floats? = some values

section

variable {answer : Except String (List NamedTensor)} {shape : List Nat} {values : List Float32}

theorem offers_iff :
    Offers answer shape values ↔
      outputOf .embedder "feature_embedded" answer = .ok (shape, values) :=
  outputOf_eq_ok_iff.symm

theorem Offers.length_le (h : Offers answer shape values) : values.length ≤ maxSize := by
  obtain ⟨_, _, -, -, -, floats⟩ := h
  exact count_of_floats? floats

theorem Offers.embeddingOf_eq (h : Offers answer shape values) (n : Nat) :
    embeddingOf n answer = featureRows n shape values := by
  rw [embeddingOf, offers_iff.1 h]
  rfl

theorem failsOnly_outputOf (stage : Stage) (name : String)
    (answer : Except String (List NamedTensor)) :
    FailsOnly (fun f => ∃ cause, f = .inference stage cause) (outputOf stage name answer) := by
  refine .bind (.mapError answer fun text => ⟨.reported text, rfl⟩) fun outputs _ => ?_
  split
  · exact .error ⟨.noOutput name, rfl⟩
  · split
    · exact .ok _
    · exact .error ⟨.notFloats name, rfl⟩

/-- Without such an output the embedder is at fault, whatever is asked for. -/
theorem offers_or_error (answer : Except String (List NamedTensor)) :
    (∃ shape values, Offers answer shape values) ∨
      (∀ shape values, ¬ Offers answer shape values) ∧
        ∃ cause, ∀ n, embeddingOf n answer = .error (.inference .embedder cause) := by
  cases read : outputOf .embedder "feature_embedded" answer with
  | ok output => exact .inl ⟨output.1, output.2, offers_iff.2 read⟩
  | error fault =>
    obtain ⟨cause, rfl⟩ := (failsOnly_outputOf .embedder "feature_embedded" answer).fault read
    refine .inr ⟨fun shape values offered => ?_, cause, fun n => ?_⟩
    · rw [offers_iff, read] at offered
      cases offered
    · rw [embeddingOf, read]
      rfl

theorem Offers.unique {shape' : List Nat} {values' : List Float32}
    (h : Offers answer shape values) (h' : Offers answer shape' values') :
    shape' = shape ∧ values' = values := by
  have same := (offers_iff.1 h').symm.trans (offers_iff.1 h)
  exact Prod.mk.inj (Except.ok.inj same)

end

/-- What becomes of an answer for `n` phonemes. -/
structure CutsRows (n : Nat) (answer : Except String (List NamedTensor))
    (result : Except Fault Matrix) : Prop where
  /-- There are rows exactly if the last axis is not empty and the values are `n` rows of its
  length. -/
  taken : (∃ m, result = .ok m) ↔ ∃ shape values, Offers answer shape values ∧
    0 < shape.getLastD 0 ∧ values.length = n * shape.getLastD 0
  /-- Each phoneme has the values that follow those of the phonemes before it. -/
  rows : ∀ m, result = .ok m → ∀ shape values, Offers answer shape values →
    m.columns = shape.getLastD 0 ∧ m.rows.length = n ∧
    ∀ i < n, m.rows[i]? = some ((values.drop (i * m.columns)).take m.columns)
  /-- The shape is at fault exactly if a machine word wraps, -/
  wrapped : result = .error (.shape .overflow) ↔
    ∃ shape values, Offers answer shape values ∧ IsWrapped n shape values
  /-- and else it is the embedder. -/
  refused : ∀ fault, result = .error fault → fault ≠ .shape .overflow →
    ∃ cause, fault = .inference .embedder cause

theorem cutsRows_of_offers {n : Nat} (nonempty : n ≠ 0) {answer : Except String (List NamedTensor)}
    {shape : List Nat} {values : List Float32} (offered : Offers answer shape values) :
    CutsRows n answer (featureRows n shape values) := by
  have fits := offered.length_le
  constructor
  case taken =>
    rw [exists_featureRows_iff fits nonempty]
    constructor
    · exact fun whole => ⟨shape, values, offered, whole⟩
    · rintro ⟨_, _, h, whole⟩
      obtain ⟨rfl, rfl⟩ := offered.unique h
      exact whole
  case rows =>
    intro m rows _ _ h
    obtain ⟨rfl, rfl⟩ := offered.unique h
    obtain ⟨rfl, columns, -, rfl⟩ := (featureRows_eq_ok_iff nonempty fits).1 rows
    exact ⟨columns.symm, rfl, fun i inside => m.getElem?_rows inside⟩
  case wrapped =>
    constructor
    · intro overflow
      rcases featureRows_cases fits nonempty with ⟨m, rows⟩ | wrapped | mismatch
      · rw [overflow] at rows
        cases rows
      · exact ⟨shape, values, offered, wrapped⟩
      · rw [overflow] at mismatch
        cases mismatch
    · rintro ⟨_, _, h, wrapped⟩
      obtain ⟨rfl, rfl⟩ := offered.unique h
      exact featureRows_of_isWrapped wrapped
  case refused =>
    intro fault refused other
    rcases featureRows_cases fits nonempty with ⟨m, rows⟩ | wrapped | mismatch
    · rw [refused] at rows
      cases rows
    · rw [featureRows_of_isWrapped wrapped] at refused
      exact absurd (Except.error.inj refused).symm other
    · rw [mismatch] at refused
      exact ⟨_, (Except.error.inj refused).symm⟩

theorem cutsRows_embeddingOf {n : Nat} (nonempty : n ≠ 0)
    (answer : Except String (List NamedTensor)) : CutsRows n answer (embeddingOf n answer) := by
  rcases offers_or_error answer with ⟨shape, values, offered⟩ | ⟨none, cause, failed⟩
  · rw [offered.embeddingOf_eq]
    exact cutsRows_of_offers nonempty offered
  · rw [failed n]
    constructor
    case taken =>
      exact ⟨nofun, fun ⟨shape, values, offered, _⟩ => absurd offered (none shape values)⟩
    case rows => exact nofun
    case wrapped =>
      exact ⟨nofun, fun ⟨shape, values, offered, _⟩ => absurd offered (none shape values)⟩
    case refused => exact fun fault refused _ => ⟨cause, (Except.error.inj refused).symm⟩

/-- The embedder is run once, on the phonemes with their pitches, and all that matters in its answer
is one output: it is cut into rows if it can be, and else it is refused. -/
theorem cutsRows_embed {S : Type} (b : Backend S) (session : S) {phonemes : List Int}
    (nonempty : phonemes ≠ []) (addressable : phonemes.length ≤ maxSize) {pitches : List Float32}
    (aligned : pitches.length = phonemes.length) (speaker : Int64) (history : History S) :
    ∃ inputs, inputs.map NamedTensor.contents =
        [("phonemes", [1, phonemes.length], .int64 phonemes),
         ("pitches", [1, phonemes.length], .float32 pitches),
         ("speaker", [1], .int64 [speaker.toInt])] ∧
      (outcome (b.embed session phonemes pitches speaker) history).2 =
        history ++ [.run .embedder session inputs (b.run history session inputs)] ∧
      CutsRows phonemes.length (b.run history session inputs)
        (outcome (b.embed session phonemes pitches speaker) history).1 := by
  obtain ⟨inputs, tensors⟩ := exists_embedderInputs speaker nonempty addressable aligned
  refine ⟨inputs, contents_of_embedderInputs tensors, ?_⟩
  rw [outcome_embed b tensors]
  exact ⟨rfl, cutsRows_embeddingOf (mt List.eq_nil_of_length_eq_zero nonempty) _⟩

/-- Two rows of one column. -/
theorem cutsRows_embed_pair :
    [(3 : Int), 5] ≠ [] ∧ [(3 : Int), 5].length ≤ maxSize ∧
      [(5 : Float32), 6].length = [(3 : Int), 5].length ∧
      ∃ m, (outcome (pairBackend.embed .embedder [3, 5] [5, 6] 7) []).1 = .ok m ∧
        m.columns = 1 ∧ m.rows.length = 2 ∧ m.rows[1]? = some [2] := by
  have nonempty : [(3 : Int), 5] ≠ [] := by decide
  have addressable : [(3 : Int), 5].length ≤ maxSize := by decide
  have aligned : [(5 : Float32), 6].length = [(3 : Int), 5].length := rfl
  obtain ⟨inputs, -, -, cuts⟩ :=
    cutsRows_embed pairBackend .embedder nonempty addressable aligned 7 []
  have offered : Offers (pairBackend.run [] .embedder inputs) [1, 2, 1] [1, 2] :=
    ⟨_, _, rfl, rfl, rfl, rfl⟩
  obtain ⟨m, ok⟩ := cuts.taken.2 ⟨_, _, offered, by decide, by decide⟩
  obtain ⟨columns, length, each⟩ := cuts.rows m ok _ _ offered
  refine ⟨nonempty, addressable, aligned, m, ok, columns, length, ?_⟩
  rw [each 1 (by decide), columns]
  rfl

/-- A backend that answers with no rows of 2 ^ 62 columns. -/
def emptyRowsBackend : Backend Stage where
  devices := {}
  load _ stage _ _ := .ok stage
  run _ _ _ := .ok [⟨"feature_embedded", [0, 4611686018427387904], .float32 [], by decide⟩]

/-- For four phonemes a machine word keeps nothing of the product, as if there were no values to
expect. -/
theorem embed_emptyRows :
    4 * 4611686018427387904 ≠ ([] : List Float32).length ∧
      (outcome (emptyRowsBackend.embed .embedder [7, 7, 7, 7] [5, 5, 5, 5] 0) []).1 =
        .error (.shape .overflow) :=
  ⟨by decide, rfl⟩

end KanaVoice
