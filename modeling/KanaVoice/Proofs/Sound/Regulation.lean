import KanaVoice.Proofs.Except
import KanaVoice.Sound.Frames
set_option autoImplicit false

/-!
# Frame rows and silence

Regulating repeats each row as often as its length covers frames, and fails only for a length out
of range or for a size that does not fit.
-/

namespace KanaVoice

/-! ## Frame counts -/

theorem frameCounts_cons (total : Nat) (seconds : Float32) (rest : List Float32) :
    frameCounts total (seconds :: rest) =
      if seconds.isNaN || maxPhonemeSeconds < seconds then .error (lengthFault seconds)
      else if countBound ≤ total + frameCount seconds then .error (lengthFault seconds)
      else (do
        let (counts, sum) ← frameCounts (total + frameCount seconds) rest
        .ok (frameCount seconds :: counts, sum)) := by
  rw [frameCounts]
  split
  · rfl
  · simp only []
    split <;> rfl

/-- Successful counting gives each length its frames. -/
theorem frameCounts_eq_map {total sum : Nat} {durations : List Float32} {counts : List Nat}
    (h : frameCounts total durations = .ok (counts, sum)) :
    counts = durations.map frameCount ∧ sum = total + counts.sum := by
  induction durations generalizing total counts with
  | nil =>
    cases h
    exact ⟨rfl, rfl⟩
  | cons seconds rest ih =>
    rw [frameCounts_cons] at h
    split at h
    · cases h
    · split at h
      · cases h
      · obtain ⟨⟨counts', sum'⟩, tail, last⟩ := except_bind_eq_ok_iff.1 h
        cases last
        obtain ⟨rfl, rfl⟩ := ih tail
        refine ⟨rfl, ?_⟩
        rw [List.sum_cons]
        omega

theorem failsOnly_frameCounts (total : Nat) (durations : List Float32) :
    FailsOnly (fun f => ∃ seconds ∈ durations, f = lengthFault seconds)
      (frameCounts total durations) := by
  induction durations generalizing total with
  | nil => exact .ok _
  | cons seconds rest ih =>
    rw [frameCounts_cons]
    split
    · exact .error ⟨seconds, List.mem_cons_self, rfl⟩
    · split
      · exact .error ⟨seconds, List.mem_cons_self, rfl⟩
      · refine .bind ((ih _).mono fun _ h => ?_) fun _ _ => .ok _
        obtain ⟨later, mem, same⟩ := h
        exact ⟨later, List.mem_cons_of_mem _ mem, same⟩

/-! ## Rows -/

namespace Matrix

theorem length_chunks (columns rows : Nat) (values : List Float32) :
    (chunks columns rows values).length = rows := by
  induction rows generalizing values with
  | zero => rfl
  | succ rows ih => rw [chunks, List.length_cons, ih]

theorem flatten_chunks (columns rows : Nat) (values : List Float32) :
    (chunks columns rows values).flatten = values.take (rows * columns) := by
  induction rows generalizing values with
  | zero => simp [chunks]
  | succ rows ih =>
    rw [chunks, List.flatten_cons, ih, ← List.take_add, Nat.succ_mul, Nat.add_comm]

theorem ofValues?_eq_some {rows columns : Nat} {values : List Float32} {m : Matrix}
    (h : ofValues? rows columns values = some m) :
    values = m.values ∧ columns = m.columns ∧ m.rows.length = rows := by
  unfold ofValues? at h
  split at h
  case isTrue size =>
    cases h
    refine ⟨?_, rfl, length_chunks ..⟩
    rw [Matrix.values, flatten_chunks, ← size, List.take_length]
  case isFalse => cases h

theorem length_values (m : Matrix) : m.values.length = m.rows.length * m.columns := by
  have widths : m.rows.map List.length = List.replicate m.rows.length m.columns := by
    rw [List.eq_replicate_iff]
    refine ⟨List.length_map .., fun width mem => ?_⟩
    obtain ⟨row, inside, rfl⟩ := List.mem_map.1 mem
    exact m.width row inside
  rw [values, List.length_flatten, widths, List.sum_replicate, Nat.nsmul_eq_mul]

theorem chunks_flatten {columns : Nat} {rows : List (List Float32)}
    (width : ∀ row ∈ rows, row.length = columns) :
    chunks columns rows.length rows.flatten = rows := by
  induction rows with
  | nil => rfl
  | cons row rest ih =>
    obtain ⟨first, others⟩ := List.forall_mem_cons.1 width
    rw [List.length_cons, chunks, List.flatten_cons, List.take_left' first, List.drop_left' first,
      ih others]

/-- A matrix is given back by its values. -/
theorem ofValues?_values (m : Matrix) :
    ofValues? m.rows.length m.columns m.values = some m := by
  have rows := chunks_flatten m.width
  rw [ofValues?, dif_pos m.length_values]
  cases m
  simpa [values] using rows

theorem regulate_eq (m : Matrix) (durations : List Float32) :
    m.regulate durations =
      if m.rows.length ≠ durations.length then .error (.shape .incompatible)
      else (do
        let (counts, total) ← frameCounts 0 durations
        if countBound ≤ total * m.columns then .error (.shape .overflow)
        else .ok {
          columns := m.columns
          rows := repeatRows m.rows counts
          width := fun row h => m.width row (mem_of_mem_repeatRows h) }) := by
  unfold regulate
  split
  · rfl
  · rfl

/-- The frame rows are the rows, each repeated for its frames. -/
theorem rows_of_regulate {m frames : Matrix} {durations : List Float32}
    (h : m.regulate durations = .ok frames) :
    frames.columns = m.columns ∧ frames.rows = repeatRows m.rows (durations.map frameCount) := by
  rw [regulate_eq] at h
  split at h
  · cases h
  · obtain ⟨⟨counts, total⟩, counted, h⟩ := except_bind_eq_ok_iff.1 h
    obtain ⟨rfl, -⟩ := frameCounts_eq_map counted
    simp only [] at h
    split at h
    · cases h
    · cases h
      exact ⟨rfl, rfl⟩

theorem failsOnly_regulate (m : Matrix) (durations : List Float32) :
    FailsOnly (fun f => (∃ cause, f = .shape cause) ∨ ∃ seconds, f = lengthFault seconds)
      (m.regulate durations) := by
  rw [regulate_eq]
  split
  · exact .error (.inl ⟨_, rfl⟩)
  · refine .bind ((failsOnly_frameCounts 0 durations).mono fun _ h => .inr ?_) ?_
    · obtain ⟨seconds, -, same⟩ := h
      exact ⟨seconds, same⟩
    · intro r _
      simp only []
      split
      · exact .error (.inl ⟨_, rfl⟩)
      · exact .ok _

end Matrix

/-! ## Silence -/

theorem failsOnly_silenceSamples (what : String) (seconds : Float32) :
    FailsOnly (· = .outOfRange what seconds) (silenceSamples what seconds) := by
  unfold silenceSamples
  split
  · exact .error rfl
  · exact .ok _

theorem failsOnly_padSilence (wave : List Float32) (pre post : Float32) :
    FailsOnly (fun f => ∃ what seconds, f = .outOfRange what seconds)
      (padSilence wave pre post) := by
  refine .bind ((failsOnly_silenceSamples _ pre).mono fun _ h => ⟨_, _, h⟩) ?_
  intro _ _
  exact .bind ((failsOnly_silenceSamples _ post).mono fun _ h => ⟨_, _, h⟩) fun _ _ => .ok _

end KanaVoice
