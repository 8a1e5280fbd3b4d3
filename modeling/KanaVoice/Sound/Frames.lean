import KanaVoice.Fault
set_option autoImplicit false

/-!
# Silence and frames

The lengths that a query and a prediction give in seconds, as samples of silence around a wave and
as frames of phonemes.
-/

namespace KanaVoice

/-! ## Silence around a wave

A query asks for silence before and after the speech, each at most a minute long.  Negative
lengths and NaN ask for none. -/

/-- Longest silence on either side, in seconds. -/
def maxSilenceSeconds : Float32 := 60

/-- Samples of so many seconds of silence; `what` names the length in the fault of a longer one. -/
def silenceSamples (what : String) (seconds : Float32) : Except Fault Nat :=
  if maxSilenceSeconds < seconds then .error (.outOfRange what seconds)
  else .ok (Single.toNatRounded (UInt64.size - 1) (seconds * Single.ofNat nativeRate))

/-- The wave with silence on both sides. -/
def padSilence (wave : List Float32) (pre post : Float32) : Except Fault (List Float32) := do
  let before ← silenceSamples "prePhonemeLength" pre
  let after ← silenceSamples "postPhonemeLength" post
  .ok (List.replicate before 0 ++ wave ++ List.replicate after 0)

/-! ## From phonemes to frames

The embedder answers with one feature row for each phoneme, the decoder wants one for each frame.  A
phoneme's row is repeated for as many frames as its length covers, rounded; a phoneme of no frames
disappears. -/

/-- A matrix by its rows. -/
structure Matrix where
  columns : Nat
  rows : List (List Float32)
  width : ∀ row ∈ rows, row.length = columns := by simp

namespace Matrix

/-- All values, row after row. -/
def values (m : Matrix) : List Float32 := m.rows.flatten

/-- A matrix of zeros. -/
def zeros (rows columns : Nat) : Matrix where
  columns := columns
  rows := List.replicate rows (List.replicate columns 0)
  width := by
    intro row h
    simp [List.eq_of_mem_replicate h]

/-- The first `rows` pieces of `columns` values each. -/
def chunks (columns : Nat) : Nat → List Float32 → List (List Float32)
  | 0, _ => []
  | rows + 1, values => values.take columns :: chunks columns rows (values.drop columns)

theorem length_of_mem_chunks {columns rows : Nat} {values row : List Float32}
    (enough : rows * columns ≤ values.length) (h : row ∈ chunks columns rows values) :
    row.length = columns := by
  induction rows generalizing values with
  | zero => simp [chunks] at h
  | succ rows ih =>
    rw [Nat.succ_mul] at enough
    rcases List.mem_cons.1 h with rfl | h
    · simp; omega
    · exact ih (by simp; omega) h

/-- The matrix whose values are given row after row; none if their number is not that of its
cells. -/
def ofValues? (rows columns : Nat) (values : List Float32) : Option Matrix :=
  if h : values.length = rows * columns then
    some {
      columns
      rows := chunks columns rows values
      width := fun _ mem => length_of_mem_chunks (Nat.le_of_eq h.symm) mem }
  else none

end Matrix

/-! ### Frame counts -/

/-- Longest phoneme that is expanded, in seconds. -/
def maxPhonemeSeconds : Float32 := 60

/-- One more than the largest number of frames, rows or values that is counted. -/
def countBound : Nat := UInt64.size

/-- Frames that a phoneme of so many seconds covers; negative lengths and NaN cover none. -/
def frameCount (seconds : Float32) : Nat :=
  Single.toNatRounded (countBound - 1) (seconds * frameRate)

/-- The fault of a phoneme length. -/
def lengthFault (seconds : Float32) : Fault := .outOfRange "phoneme duration" seconds

/-- The frame count of each length and, added to `total`, their sum.  A length that is NaN,
longer than a minute or one too many to count is a fault. -/
def frameCounts (total : Nat) : List Float32 → Except Fault (List Nat × Nat)
  | [] => .ok ([], total)
  | seconds :: rest => do
    if seconds.isNaN || maxPhonemeSeconds < seconds then .error (lengthFault seconds)
    let sum := total + frameCount seconds
    if countBound ≤ sum then .error (lengthFault seconds)
    let (counts, total) ← frameCounts sum rest
    .ok (frameCount seconds :: counts, total)

namespace Matrix

/-- Each row as often as its count says. -/
def repeatRows (rows : List (List Float32)) (counts : List Nat) : List (List Float32) :=
  (rows.zip counts).flatMap fun r => List.replicate r.2 r.1

theorem mem_of_mem_repeatRows {rows : List (List Float32)} {counts : List Nat}
    {row : List Float32} (h : row ∈ repeatRows rows counts) : row ∈ rows := by
  obtain ⟨⟨r, n⟩, mem, h⟩ := List.mem_flatMap.1 h
  have : row = r := List.eq_of_mem_replicate h
  exact this ▸ (List.of_mem_zip mem).1

/-- The frame rows of phoneme rows whose lengths in seconds are given. -/
def regulate (m : Matrix) (durations : List Float32) : Except Fault Matrix := do
  if m.rows.length ≠ durations.length then .error (.shape .incompatible)
  let (counts, total) ← frameCounts 0 durations
  if countBound ≤ total * m.columns then .error (.shape .overflow)
  .ok {
    columns := m.columns
    rows := repeatRows m.rows counts
    width := fun row h => m.width row (mem_of_mem_repeatRows h) }

end Matrix

end KanaVoice
