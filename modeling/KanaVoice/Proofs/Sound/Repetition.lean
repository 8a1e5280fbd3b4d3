import KanaVoice.Proofs.Single.Sign
import KanaVoice.Proofs.Sound.Regulation
set_option autoImplicit false

/-!
# Frame rows are repeated rows

Lengths are counted one after another, so that the first one out of range is reported, and counting
two lists behind one another is counting either.  What is regulated has each row as often as its
length covers frames, at the place where the frames of the rows before it end.
-/

namespace KanaVoice

/-! ## Lengths in range -/

/-- A length that is expanded: a number, and a minute at most. -/
def InRange (seconds : Float32) : Prop := seconds.isNaN = false ∧ ¬ 60 < seconds

instance : DecidablePred InRange := fun seconds =>
  inferInstanceAs (Decidable (seconds.isNaN = false ∧ ¬ 60 < seconds))

section

variable {seconds : Float32}

theorem not_inRange_iff :
    ¬ InRange seconds ↔ (seconds.isNaN || decide (maxPhonemeSeconds < seconds)) = true := by
  rw [Bool.or_eq_true, decide_eq_true_iff, InRange, not_and_or, not_not, Bool.not_eq_false]
  rfl

theorem frameRate_pos : 0 < frameRate := by
  rw [frameRate_eq]
  decide

/-- A length that is not positive covers no frame. -/
theorem frameCount_of_not_pos (notPositive : ¬ 0 < seconds) : frameCount seconds = 0 :=
  Single.toNatRounded_of_not_pos _ (Single.not_pos_mul notPositive frameRate_pos)

example : ([0.016, 0, 0.005, -0.3] : List Float32).map frameCount = [3, 0, 1, 0] := by
  decide +kernel

theorem frameCounts_cons_of_not_inRange (total : Nat) (refused : ¬ InRange seconds)
    (rest : List Float32) :
    frameCounts total (seconds :: rest) = .error (lengthFault seconds) := by
  rw [frameCounts_cons, if_pos (not_inRange_iff.1 refused)]

theorem frameCounts_cons_of_inRange (total : Nat) (inRange : InRange seconds)
    (rest : List Float32) :
    frameCounts total (seconds :: rest) =
      if countBound ≤ total + frameCount seconds then .error (lengthFault seconds)
      else (do
        let (counts, sum) ← frameCounts (total + frameCount seconds) rest
        .ok (frameCount seconds :: counts, sum)) := by
  rw [frameCounts_cons, if_neg (fun refused => not_inRange_iff.2 refused inRange)]

end

/-! ## Counting -/

/-- Counting goes on behind a list where it stopped. -/
theorem frameCounts_append (total : Nat) (front back : List Float32) :
    frameCounts total (front ++ back) = (do
      let (counts, sum) ← frameCounts total front
      let (more, sum) ← frameCounts sum back
      .ok (counts ++ more, sum)) := by
  induction front generalizing total with
  | nil =>
    show frameCounts total back = (do let (more, sum) ← frameCounts total back; .ok (more, sum))
    cases frameCounts total back <;> rfl
  | cons seconds rest ih =>
    rw [List.cons_append, frameCounts_cons, frameCounts_cons]
    split
    · rfl
    · split
      · rfl
      · rw [ih]
        cases frameCounts (total + frameCount seconds) rest with
        | error fault => rfl
        | ok r =>
          simp only [except_ok_bind]
          cases frameCounts r.2 back <;> rfl

section

variable {total : Nat} {durations : List Float32}

theorem frameCounts_of_inRange (inRange : ∀ s ∈ durations, InRange s)
    (fits : total + (durations.map frameCount).sum < countBound) :
    frameCounts total durations =
      .ok (durations.map frameCount, total + (durations.map frameCount).sum) := by
  induction durations generalizing total with
  | nil => rfl
  | cons seconds rest ih =>
    obtain ⟨first, others⟩ := List.forall_mem_cons.1 inRange
    rw [List.map_cons, List.sum_cons] at fits ⊢
    rw [frameCounts_cons_of_inRange total first, if_neg (by omega), ih others (by omega),
      Nat.add_assoc]
    rfl

theorem inRange_of_frameCounts {r : List Nat × Nat}
    (counted : frameCounts total durations = .ok r) : ∀ s ∈ durations, InRange s := by
  induction durations generalizing total r with
  | nil => exact nofun
  | cons seconds rest ih =>
    have first : InRange seconds := by
      by_contra refused
      rw [frameCounts_cons_of_not_inRange total refused] at counted
      cases counted
    rw [frameCounts_cons_of_inRange total first] at counted
    split at counted
    · cases counted
    · obtain ⟨_, others, -⟩ := except_bind_eq_ok_iff.1 counted
      exact List.forall_mem_cons.2 ⟨first, ih others⟩

theorem sum_lt_of_frameCounts {r : List Nat × Nat} (start : total < countBound)
    (counted : frameCounts total durations = .ok r) : r.2 < countBound := by
  induction durations generalizing total r with
  | nil =>
    cases counted
    exact start
  | cons seconds rest ih =>
    rw [frameCounts_cons] at counted
    split at counted
    · cases counted
    · split at counted
      · cases counted
      · obtain ⟨_, others, last⟩ := except_bind_eq_ok_iff.1 counted
        cases last
        have fits : total + frameCount seconds < countBound := by omega
        have bounded := ih fits others
        exact bounded

/-- Lengths are counted if all of them are in range and their frames are not too many. -/
theorem frameCounts_eq_ok_iff {r : List Nat × Nat} (start : total < countBound) :
    frameCounts total durations = .ok r ↔ (∀ s ∈ durations, InRange s) ∧
      total + (durations.map frameCount).sum < countBound ∧
      r = (durations.map frameCount, total + (durations.map frameCount).sum) := by
  constructor
  · intro counted
    obtain ⟨counts, sum⟩ := r
    have fits := sum_lt_of_frameCounts start counted
    obtain ⟨rfl, rfl⟩ := frameCounts_eq_map counted
    exact ⟨inRange_of_frameCounts counted, fits, rfl⟩
  · rintro ⟨inRange, fits, rfl⟩
    exact frameCounts_of_inRange inRange fits

/-- Counting reports the first length out of range. -/
theorem frameCounts_of_first {before after : List Float32} {seconds : Float32}
    (inRange : ∀ s ∈ before, InRange s)
    (fits : total + (before.map frameCount).sum < countBound) (refused : ¬ InRange seconds) :
    frameCounts total (before ++ seconds :: after) = .error (lengthFault seconds) := by
  rw [frameCounts_append, frameCounts_of_inRange inRange fits]
  simp only [except_ok_bind, frameCounts_cons_of_not_inRange _ refused]
  rfl

/-- Where counting starts does not matter as long as the frames are not too many. -/
theorem frameCounts_add (more start : Nat)
    (fits : more + start + (durations.map frameCount).sum < countBound) :
    frameCounts (more + start) durations = (do
      let (counts, sum) ← frameCounts start durations
      .ok (counts, more + sum)) := by
  induction durations generalizing start with
  | nil => rfl
  | cons seconds rest ih =>
    rw [List.map_cons, List.sum_cons] at fits
    rw [frameCounts_cons, frameCounts_cons, Nat.add_assoc]
    split
    · rfl
    · rw [if_neg (by omega), if_neg (by omega), ih _ (by omega)]
      cases frameCounts (start + frameCount seconds) rest <;> rfl

theorem frameCounts_cons_of_zero {seconds : Float32} (start : total < countBound)
    (inRange : InRange seconds) (none : frameCount seconds = 0) :
    frameCounts total (seconds :: durations) = (do
      let (counts, sum) ← frameCounts total durations
      .ok (0 :: counts, sum)) := by
  rw [frameCounts_cons_of_inRange total inRange, none, if_neg (by omega)]
  rfl

/-- A length without frames adds a zero to the counts and nothing to their sum. -/
theorem frameCounts_of_zero {before after : List Float32} {seconds : Float32}
    (start : total < countBound) (inRange : InRange seconds) (none : frameCount seconds = 0) :
    frameCounts total (before ++ seconds :: after) = (do
      let (front, sum) ← frameCounts total before
      let (back, sum) ← frameCounts sum after
      .ok (front ++ 0 :: back, sum)) := by
  rw [frameCounts_append]
  cases counted : frameCounts total before with
  | error fault => rfl
  | ok front =>
    simp only [except_ok_bind,
      frameCounts_cons_of_zero (sum_lt_of_frameCounts start counted) inRange none]
    cases frameCounts front.2 after <;> rfl

/-- There is a count for each length, and their sum is that of the frames. -/
theorem counts_of_frameCounts {r : List Nat × Nat} (counted : frameCounts 0 durations = .ok r) :
    r.1.length = durations.length ∧ r.2 = (durations.map frameCount).sum := by
  obtain ⟨counts, sum⟩ := r
  obtain ⟨rfl, rfl⟩ := frameCounts_eq_map counted
  exact ⟨List.length_map _, Nat.zero_add _⟩

end

/-! ## Repeated rows -/

namespace Matrix

section

variable {rows rows' : List (List Float32)} {counts counts' : List Nat}

theorem repeatRows_cons (row : List Float32) (count : Nat) :
    repeatRows (row :: rows) (count :: counts) =
      List.replicate count row ++ repeatRows rows counts := rfl

theorem repeatRows_append (same : rows.length = counts.length) :
    repeatRows (rows ++ rows') (counts ++ counts') =
      repeatRows rows counts ++ repeatRows rows' counts' := by
  rw [repeatRows, List.zip_append same, List.flatMap_append]
  rfl

theorem repeatRows_zero (same : rows.length = counts.length) (row : List Float32) :
    repeatRows (rows ++ row :: rows') (counts ++ 0 :: counts') =
      repeatRows (rows ++ rows') (counts ++ counts') := by
  rw [repeatRows_append same, repeatRows_append same, repeatRows_cons]
  rfl

theorem length_repeatRows (same : rows.length = counts.length) :
    (repeatRows rows counts).length = counts.sum := by
  induction rows generalizing counts with
  | nil =>
    rw [List.eq_nil_of_length_eq_zero same.symm]
    rfl
  | cons row rows ih =>
    cases counts with
    | nil => cases same
    | cons count counts =>
      rw [repeatRows_cons, List.length_append, List.length_replicate, ih (Nat.succ.inj same),
        List.sum_cons]

theorem repeatRows_map {α : Type} (count : α → Nat) (lengths : List α) :
    repeatRows rows (lengths.map count) =
      (List.zipWith (fun row s => List.replicate (count s) row) rows lengths).flatten := by
  rw [repeatRows, List.flatMap_def, List.map_zip_eq_zipWith, List.zipWith_map_right]
  rfl

/-- The copies of a row stand behind those of the rows before it. -/
theorem getElem?_repeatRows {i k : Nat} {row : List Float32} {count : Nat}
    (here : rows[i]? = some row) (counted : counts[i]? = some count) (inside : k < count) :
    (repeatRows rows counts)[(counts.take i).sum + k]? = some row := by
  induction rows generalizing counts i with
  | nil => cases here
  | cons first rows ih =>
    cases counts with
    | nil => cases counted
    | cons own counts =>
      rw [repeatRows_cons]
      cases i with
      | zero =>
        cases here
        cases counted
        rw [List.take_zero, List.sum_nil, Nat.zero_add,
          List.getElem?_append_left (by rwa [List.length_replicate]),
          List.getElem?_replicate_of_lt inside]
      | succ i =>
        rw [List.take_succ_cons, List.sum_cons, Nat.add_assoc,
          List.getElem?_append_right (by rw [List.length_replicate]; omega), List.length_replicate,
          Nat.add_sub_cancel_left]
        exact ih here counted

/-! ## Rows written one after another -/

/-- Writes copies of a row from a position on; the position moves behind them. -/
def writeCopies (row : List Float32) : Nat → Nat × List (List Float32) → Nat × List (List Float32)
  | 0, written => written
  | count + 1, (position, frames) =>
    writeCopies row count (position + 1, frames.set position row)

/-- Writes each row as often as its count says. -/
def writeRows (rows : List (List Float32)) (counts : List Nat)
    (written : Nat × List (List Float32)) : Nat × List (List Float32) :=
  (rows.zip counts).foldl (fun written r => writeCopies r.1 r.2 written) written

theorem writeCopies_eq (row blank : List Float32) (front : List (List Float32)) (count more : Nat) :
    writeCopies row count (front.length, front ++ List.replicate (count + more) blank) =
      (front.length + count, front ++ List.replicate count row ++ List.replicate more blank) := by
  induction count generalizing front with
  | zero => simp [writeCopies]
  | succ count ih =>
    have first : (front ++ List.replicate (count + 1 + more) blank).set front.length row =
        (front ++ [row]) ++ List.replicate (count + more) blank := by
      rw [Nat.add_right_comm, List.replicate_succ, List.set_append_right _ _ (Nat.le_refl _),
        Nat.sub_self, List.set_cons_zero, List.append_assoc]
      rfl
    have moved : front.length + 1 = (front ++ [row]).length := by simp
    rw [writeCopies, first, moved, ih, List.replicate_succ, List.append_assoc front]
    simp [Nat.add_assoc, Nat.add_comm 1]

theorem writeRows_append (blank : List Float32) (front : List (List Float32))
    (same : rows.length = counts.length) :
    writeRows rows counts (front.length, front ++ List.replicate counts.sum blank) =
      (front.length + counts.sum, front ++ repeatRows rows counts) := by
  induction rows generalizing counts front with
  | nil =>
    rw [List.eq_nil_of_length_eq_zero same.symm]
    rfl
  | cons row rows ih =>
    cases counts with
    | nil => cases same
    | cons count counts =>
      have copies := writeCopies_eq row blank front count counts.sum
      have later := ih (front ++ List.replicate count row) (Nat.succ.inj same)
      rw [List.length_append, List.length_replicate] at later
      show writeRows rows counts (writeCopies row count _) = _
      rw [List.sum_cons, copies, later, repeatRows_cons, Nat.add_assoc, List.append_assoc]

/-- Written into blank rows, one for each copy, the rows leave none of these blank, and the position
ends behind the last one. -/
theorem writeRows_eq (blank : List Float32) (same : rows.length = counts.length) :
    writeRows rows counts (0, List.replicate counts.sum blank) =
      (counts.sum, repeatRows rows counts) := by
  have written := writeRows_append blank [] same
  rwa [List.length_nil, Nat.zero_add, List.nil_append, List.nil_append] at written

end

/-! ## Regulating -/

/-- Two matrices of one width, one below the other. -/
def append (a b : Matrix) (same : b.columns = a.columns) : Matrix where
  columns := a.columns
  rows := a.rows ++ b.rows
  width := fun row mem => (List.mem_append.1 mem).elim (a.width row) fun below =>
    same ▸ b.width row below

/-- The matrix without one of its rows. -/
def eraseRow (m : Matrix) (i : Nat) : Matrix where
  columns := m.columns
  rows := m.rows.eraseIdx i
  width := fun row mem => m.width row (List.mem_of_mem_eraseIdx mem)

section

variable {m frames : Matrix} {durations : List Float32}

theorem rows_regulate (aligned : durations.length = m.rows.length) :
    rows <$> m.regulate durations = (do
      let (counts, total) ← frameCounts 0 durations
      if countBound ≤ total * m.columns then .error (.shape .overflow)
      else .ok (repeatRows m.rows counts)) := by
  rw [regulate_eq, if_neg (by omega)]
  cases frameCounts 0 durations with
  | error fault => rfl
  | ok r =>
    simp only [except_ok_bind]
    split <;> rfl

/-- Rows are repeated if their lengths are in range and their frames and values are not too many. -/
theorem regulate_eq_ok_iff :
    m.regulate durations = .ok frames ↔ durations.length = m.rows.length ∧
      (∀ s ∈ durations, InRange s) ∧ (durations.map frameCount).sum < countBound ∧
      (durations.map frameCount).sum * m.columns < countBound ∧ frames.columns = m.columns ∧
      frames.rows = repeatRows m.rows (durations.map frameCount) := by
  have start : 0 < countBound := by decide
  constructor
  · intro regulated
    obtain ⟨columns, rows⟩ := rows_of_regulate regulated
    rw [regulate_eq] at regulated
    split at regulated
    · cases regulated
    · obtain ⟨r, counted, cells⟩ := except_bind_eq_ok_iff.1 regulated
      obtain ⟨inRange, fits, rfl⟩ := (frameCounts_eq_ok_iff start).1 counted
      rw [Nat.zero_add] at fits
      simp only [Nat.zero_add] at cells
      split at cells
      · cases cells
      · exact ⟨by omega, inRange, fits, by omega, columns, rows⟩
  · rintro ⟨aligned, inRange, fits, cells, columns, rows⟩
    have counted := (frameCounts_eq_ok_iff start).2 ⟨inRange, by rwa [Nat.zero_add], rfl⟩
    rw [regulate_eq, if_neg (by omega), counted]
    simp only [except_ok_bind, Nat.zero_add]
    rw [if_neg (by omega)]
    cases frames
    cases columns
    cases rows
    rfl

theorem exists_regulate (aligned : durations.length = m.rows.length)
    (inRange : ∀ s ∈ durations, InRange s) (fits : (durations.map frameCount).sum < countBound)
    (cells : (durations.map frameCount).sum * m.columns < countBound) :
    ∃ frames, m.regulate durations = .ok frames :=
  ⟨{
    columns := m.columns
    rows := repeatRows m.rows (durations.map frameCount)
    width := fun row h => m.width row (mem_of_mem_repeatRows h) },
    regulate_eq_ok_iff.2 ⟨aligned, inRange, fits, cells, rfl, rfl⟩⟩

theorem length_rows_of_regulate (regulated : m.regulate durations = .ok frames) :
    frames.rows.length = (durations.map frameCount).sum := by
  obtain ⟨aligned, -, -, -, -, rows⟩ := regulate_eq_ok_iff.1 regulated
  rw [rows, length_repeatRows (by rw [List.length_map, aligned])]

/-- Among aligned lengths the first one out of range is reported. -/
theorem regulate_of_first {before after : List Float32} {seconds : Float32}
    (aligned : (before ++ seconds :: after).length = m.rows.length)
    (inRange : ∀ s ∈ before, InRange s) (fits : (before.map frameCount).sum < countBound)
    (refused : ¬ InRange seconds) :
    m.regulate (before ++ seconds :: after) = .error (lengthFault seconds) := by
  rw [regulate_eq, if_neg (by omega),
    frameCounts_of_first inRange (by rwa [Nat.zero_add]) refused]
  rfl

theorem regulate_of_not_inRange (aligned : durations.length = m.rows.length)
    (refused : ∃ s ∈ durations, ¬ InRange s) :
    ∃ s ∈ durations, m.regulate durations = .error (lengthFault s) := by
  obtain ⟨bad, mem, refused⟩ := refused
  rw [regulate_eq, if_neg (by omega)]
  cases counted : frameCounts 0 durations with
  | ok r => exact absurd (inRange_of_frameCounts counted bad mem) refused
  | error fault =>
    obtain ⟨s, mem, rfl⟩ := (failsOnly_frameCounts 0 durations).fault counted
    exact ⟨s, mem, rfl⟩

/-- A phoneme of no frames might as well not be there. -/
theorem rows_regulate_eraseIdx (aligned : durations.length = m.rows.length) {i : Nat}
    {seconds : Float32} (here : durations[i]? = some seconds) (inRange : InRange seconds)
    (none : frameCount seconds = 0) :
    rows <$> m.regulate durations = rows <$> (m.eraseRow i).regulate (durations.eraseIdx i) := by
  obtain ⟨inside, rfl⟩ := List.getElem?_eq_some_iff.1 here
  have inside' : i < m.rows.length := aligned ▸ inside
  have aligned' : (durations.eraseIdx i).length = (m.eraseRow i).rows.length := by
    rw [eraseRow, List.length_eraseIdx_of_lt inside, List.length_eraseIdx_of_lt inside', aligned]
  have places : m.rows = m.rows.take i ++ m.rows[i] :: m.rows.drop (i + 1) := by
    rw [← List.drop_eq_getElem_cons, List.take_append_drop]
  have without : frameCounts 0 durations = (do
      let (front, sum) ← frameCounts 0 (durations.take i)
      let (back, sum) ← frameCounts sum (durations.drop (i + 1))
      .ok (front ++ 0 :: back, sum)) := by
    rw [← frameCounts_of_zero (by decide) inRange none, ← List.drop_eq_getElem_cons,
      List.take_append_drop]
  rw [rows_regulate aligned, rows_regulate aligned', without, List.eraseIdx_eq_take_drop_succ,
    frameCounts_append]
  -- Both sides count the lengths before and behind the phoneme; only one has a zero between them.
  cases counted : frameCounts 0 (durations.take i) with
  | error fault => rfl
  | ok front =>
    have length : (m.rows.take i).length = front.1.length := by
      rw [(counts_of_frameCounts counted).1, List.length_take, List.length_take, aligned]
    have rows (back : List Nat) : repeatRows m.rows (front.1 ++ 0 :: back) =
        repeatRows (m.rows.take i ++ m.rows.drop (i + 1)) (front.1 ++ back) := by
      rw [← repeatRows_zero length m.rows[i], ← places]
    simp only [except_ok_bind]
    cases frameCounts front.2 (durations.drop (i + 1)) with
    | error fault => rfl
    | ok back =>
      simp only [except_ok_bind, eraseRow, List.eraseIdx_eq_take_drop_succ, rows]

/-- Regulating two matrices one below the other is regulating either. -/
theorem rows_regulate_append {n : Matrix} {more : List Float32} (same : n.columns = m.columns)
    (aligned : durations.length = m.rows.length) (aligned' : more.length = n.rows.length)
    (fits : ((durations ++ more).map frameCount).sum < countBound)
    (cells : ((durations ++ more).map frameCount).sum * m.columns < countBound) :
    rows <$> (m.append n same).regulate (durations ++ more) = (do
      let front ← m.regulate durations
      let back ← n.regulate more
      .ok (front.rows ++ back.rows)) := by
  have joint : (durations ++ more).length = (m.append n same).rows.length := by
    rw [append, List.length_append, List.length_append, aligned, aligned']
  rw [List.map_append, List.sum_append] at fits cells
  rw [rows_regulate joint, frameCounts_append, regulate_eq, if_neg (by omega), regulate_eq,
    if_neg (by omega)]
  have few {total : Nat}
      (le : total ≤ (durations.map frameCount).sum + (more.map frameCount).sum) :
      ¬ countBound ≤ total * m.columns :=
    Nat.not_le.2 ((Nat.mul_le_mul_right _ le).trans_lt cells)
  cases counted : frameCounts 0 durations with
  | error fault => rfl
  | ok front =>
    obtain ⟨length, total⟩ := counts_of_frameCounts counted
    rw [aligned] at length
    have later : frameCounts front.2 more = (do
        let (counts, sum) ← frameCounts 0 more
        .ok (counts, front.2 + sum)) := frameCounts_add front.2 0 (by omega)
    have alone : ¬ countBound ≤ front.2 * m.columns := few (by omega)
    simp only [except_ok_bind, later, if_neg alone]
    cases counted' : frameCounts 0 more with
    | error fault => rfl
    | ok back =>
      have total' := (counts_of_frameCounts counted').2
      simp only [except_ok_bind, append, same, repeatRows_append length.symm]
      rw [if_neg (few (by omega)), if_neg (few (by omega))]
      rfl

end

/-- Regulation, as the repetition of rows. -/
structure RepeatsRows (m : Matrix) (durations : List Float32) : Prop where
  /-- There must be a length for each row. -/
  unaligned : durations.length ≠ m.rows.length →
    m.regulate durations = .error (.shape .incompatible)
  /-- If a length is out of range, then the fault is that of a length, whatever the sizes are. -/
  refused : durations.length = m.rows.length → (∃ s ∈ durations, ¬ InRange s) →
    ∃ s ∈ durations, m.regulate durations = .error (.outOfRange "phoneme duration" s)
  /-- It is that of the first one, unless the frames before it are too many to be counted. -/
  first : ∀ before seconds after, durations = before ++ seconds :: after →
    durations.length = m.rows.length → (∀ s ∈ before, InRange s) →
    (before.map frameCount).sum < countBound → ¬ InRange seconds →
    m.regulate durations = .error (.outOfRange "phoneme duration" seconds)
  /-- Otherwise the rows are repeated one after another, as long as the sizes can be counted. -/
  repeated : durations.length = m.rows.length → (∀ s ∈ durations, InRange s) →
    (durations.map frameCount).sum < countBound →
    (durations.map frameCount).sum * m.columns < countBound →
    ∃ frames, m.regulate durations = .ok frames ∧ frames.columns = m.columns ∧
      frames.rows = (List.zipWith (fun row s => List.replicate (frameCount s) row)
        m.rows durations).flatten ∧
      frames.rows.length = (durations.map frameCount).sum
  /-- The frames of a phoneme begin where those of the phonemes before it end. -/
  placed : ∀ frames, m.regulate durations = .ok frames → ∀ i seconds row,
    durations[i]? = some seconds → m.rows[i]? = some row → ∀ k < frameCount seconds,
    frames.rows[((durations.take i).map frameCount).sum + k]? = some row
  /-- Writing the copies one after another into zeros gives the same frames and leaves no zeros. -/
  written : ∀ frames, m.regulate durations = .ok frames →
    writeRows m.rows (durations.map frameCount)
        (0, (zeros (durations.map frameCount).sum m.columns).rows) =
      ((durations.map frameCount).sum, frames.rows)
  /-- A length that is not positive covers no frame. -/
  noFrames : ∀ seconds, ¬ 0 < seconds → frameCount seconds = 0
  /-- A phoneme without frames leaves the frames of the others as they are. -/
  vanishing : durations.length = m.rows.length → ∀ i seconds, durations[i]? = some seconds →
    InRange seconds → frameCount seconds = 0 →
    rows <$> m.regulate durations = rows <$> (m.eraseRow i).regulate (durations.eraseIdx i)
  /-- Regulating one matrix below another is regulating either, the faults included. -/
  joined : durations.length = m.rows.length → ∀ n more (same : columns n = m.columns),
    more.length = n.rows.length → ((durations ++ more).map frameCount).sum < countBound →
    ((durations ++ more).map frameCount).sum * m.columns < countBound →
    rows <$> (m.append n same).regulate (durations ++ more) = (do
      let front ← m.regulate durations
      let back ← n.regulate more
      .ok (front.rows ++ back.rows))

theorem repeatsRows (m : Matrix) (durations : List Float32) : RepeatsRows m durations := by
  constructor
  case unaligned =>
    intro unaligned
    rw [regulate_eq, if_pos unaligned.symm]
  case refused => exact regulate_of_not_inRange
  case first =>
    rintro before seconds after rfl aligned inRange fits refused
    exact regulate_of_first aligned inRange fits refused
  case repeated =>
    intro aligned inRange fits cells
    obtain ⟨frames, regulated⟩ := exists_regulate aligned inRange fits cells
    obtain ⟨columns, rows⟩ := rows_of_regulate regulated
    exact ⟨frames, regulated, columns, rows.trans (repeatRows_map ..),
      length_rows_of_regulate regulated⟩
  case placed =>
    intro frames regulated i seconds row here place k inside
    rw [(rows_of_regulate regulated).2, List.map_take]
    refine getElem?_repeatRows place ?_ inside
    rw [List.getElem?_map, here]
    rfl
  case written =>
    -- The zeros are as many as the copies that are written over them.
    intro frames regulated
    obtain ⟨aligned, -, -, -, -, rows⟩ := regulate_eq_ok_iff.1 regulated
    rw [rows]
    exact writeRows_eq _ (by rw [List.length_map, aligned])
  case noFrames => exact fun _ => frameCount_of_not_pos
  case vanishing =>
    exact fun aligned i seconds here inRange none =>
      rows_regulate_eraseIdx aligned here inRange none
  case joined =>
    exact fun aligned n more same aligned' fits cells =>
      rows_regulate_append same aligned aligned' fits cells

end Matrix

end KanaVoice
