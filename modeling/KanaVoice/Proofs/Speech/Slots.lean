import KanaVoice.Proofs.Speech.Placement
set_option autoImplicit false

/-!
# What is spoken, position by position

Phrases get their lengths and pitches from a prediction, then their questions get a rise, and only
then are they spoken.  So what is spoken has a slot for each phoneme position, in order, and between
them one slot for each rise.  Phonemes, pitches and lengths of all slots follow from the symbols and
the prediction of the positions before the rises were put in.
-/

namespace KanaVoice

/-- A slot of what is spoken: a phoneme position together with that of its mora's vowel, or the
rise behind a mora with its vowel at a position. -/
inductive Slot where
  | phoneme (position vowel : Nat) (voiced : Bool)
  | rise (vowel : Nat)
  deriving DecidableEq, Repr

namespace Slot

/-- The phoneme position of the slot; a rise has none. -/
def position? : Slot → Option Nat
  | phoneme position _ _ => some position
  | rise _ => none

/-- The position whose phoneme the slot has: a rise repeats the vowel before it. -/
def source : Slot → Nat
  | phoneme position _ _ => position
  | rise vowel => vowel

/-- The slot's pitch: that of the vowel if it is voiced, and for a rise 0.3 more than that of the
vowel before it, but 6.5 at most. -/
def pitch (pitches : List Float32) : Slot → Float32
  | phoneme _ vowel voiced => if voiced then valueAt pitches vowel else 0
  | rise vowel =>
    let raised := valueAt pitches vowel + 0.3
    if raised < 6.5 then raised else 6.5

/-- The slot's length: that of its phoneme, and 0.15 seconds for a rise. -/
def length (durations : List Float32) : Slot → Float32
  | phoneme position _ _ => valueAt durations position
  | rise _ => 0.15

/-- The slot refers to the first `n` positions only. -/
def Within (n : Nat) : Slot → Prop
  | phoneme position vowel _ => position < n ∧ vowel < n
  | rise vowel => vowel < n

/-- A rise has the pitch of the mora that is put in for it. -/
theorem pitch_rise (pitches : List Float32) (vowel : Nat) :
    (rise vowel).pitch pitches = upspeakPitch (valueAt pitches vowel) := rfl

theorem length_rise (durations : List Float32) (vowel : Nat) :
    (rise vowel).length durations = upspeakLength := rfl

/-- There is no rise above the ceiling. -/
example : (rise 1).pitch [0, 6.4] = 6.5 := by decide +kernel

end Slot

/-- The slots of a mora whose first phoneme is at `start`. -/
def Mora.slots (start : Nat) (m : Mora) : List Slot :=
  let voiced := !isVoiceless m.vowel
  let vowel := m.vowelAt start
  (if m.consonant.isSome then [.phoneme start vowel voiced] else []) ++
  [.phoneme vowel vowel voiced]

namespace AccentPhrase

/-- The slot of the last vowel of a phrase at `start`, which is the last phoneme of its morae. -/
def lastSlot? (start : Nat) (p : AccentPhrase) : Option Slot :=
  p.moras.getLast?.map fun last =>
    let vowel := start + (p.moras.map Mora.phonemeCount).sum - 1
    .phoneme vowel vowel (!isVoiceless last.vowel)

/-- The rise of a phrase at `start`: there is one behind the last mora of a question if that mora
has a pitch. -/
def rises (pitches : List Float32) (start : Nat) (p : AccentPhrase) : List Slot :=
  match p.lastSlot? start with
  | some last => if p.isQuestion && last.pitch pitches != 0 then [.rise last.source] else []
  | none => []

/-- The slots of a phrase at `start`: its morae, its rise and its pause. -/
def slots (pitches : List Float32) (start : Nat) (p : AccentPhrase) : List Slot :=
  let pause := start + (p.moras.map Mora.phonemeCount).sum
  (mapOffsets Mora.phonemeCount Mora.slots start p.moras).flatten ++ p.rises pitches start ++
  p.pause.toList.map fun _ => .phoneme pause pause false

end AccentPhrase

/-- The slots of phrases whose pitches are predicted. -/
def slots (pitches : List Float32) (phrases : List AccentPhrase) : List Slot :=
  (mapOffsets AccentPhrase.phonemeCount (AccentPhrase.slots pitches) 0 phrases).flatten

/-! ## The positions of slots -/

theorem Mora.filterMap_position_slots (m : Mora) (start : Nat) :
    (m.slots start).filterMap Slot.position? = List.range' start m.phonemeCount := by
  cases h : m.consonant with
  | none => simp [slots, h, vowelAt, Slot.position?, phonemeCount]
  | some c => simp [slots, h, vowelAt, Slot.position?, phonemeCount, List.range'_succ]

theorem AccentPhrase.filterMap_position_rises (pitches : List Float32) (start : Nat)
    (p : AccentPhrase) : (p.rises pitches start).filterMap Slot.position? = [] := by
  unfold rises
  split
  · split <;> rfl
  · rfl

theorem AccentPhrase.filterMap_position_slots {p : AccentPhrase} (bare : p.HasBarePause)
    (pitches : List Float32) (start : Nat) :
    (p.slots pitches start).filterMap Slot.position? = List.range' start p.phonemeCount := by
  have moras : (mapOffsets Mora.phonemeCount Mora.slots start p.moras).flatten.filterMap
      Slot.position? = List.range' start (p.moras.map Mora.phonemeCount).sum :=
    filterMap_mapOffsets (fun m _ => m.filterMap_position_slots) start
  rw [← shareCount_eq_phonemeCount bare, shareCount, slots, List.filterMap_append,
    List.filterMap_append, filterMap_position_rises, List.append_nil, moras, ← List.range'_append_1]
  cases p.pause <;> rfl

/-- The slots have the phoneme positions in order. -/
theorem filterMap_position_slots {phrases : List AccentPhrase}
    (bare : ∀ p ∈ phrases, p.HasBarePause) (pitches : List Float32) :
    (slots pitches phrases).filterMap Slot.position? = List.range (phonemeTotal phrases) := by
  rw [slots, filterMap_mapOffsets fun p mem =>
    AccentPhrase.filterMap_position_slots (bare p mem) pitches, List.range_eq_range']
  rfl

theorem slots_ne_nil {phrases : List AccentPhrase} (bare : ∀ p ∈ phrases, p.HasBarePause)
    (phonemes : phonemeTotal phrases ≠ 0) (pitches : List Float32) :
    slots pitches phrases ≠ [] := by
  intro empty
  have positions := filterMap_position_slots bare pitches
  rw [empty, List.filterMap_nil] at positions
  exact phonemes (List.range_eq_nil.1 positions.symm)

/-! ## The range of slots -/

theorem Mora.within_slots {m : Mora} {start n : Nat} (enough : start + m.phonemeCount ≤ n) :
    ∀ s ∈ m.slots start, s.Within n := by
  cases h : m.consonant with
  | none =>
    rw [phonemeCount_of_bare h] at enough
    simp [slots, vowelAt, h, Slot.Within]
    omega
  | some c =>
    rw [phonemeCount_of_consonant h] at enough
    simp [slots, vowelAt, h, Slot.Within]
    omega

theorem AccentPhrase.within_rises {p : AccentPhrase} {start n : Nat} (pitches : List Float32)
    (enough : start + (p.moras.map Mora.phonemeCount).sum ≤ n) :
    ∀ s ∈ p.rises pitches start, s.Within n := by
  rcases List.eq_nil_or_concat p.moras with none | ⟨init, last, same⟩
  · have empty : p.rises pitches start = [] := by simp [rises, lastSlot?, none]
    rw [empty]
    exact nofun
  · rw [List.concat_eq_append] at same
    have lastMora : p.moras.getLast? = some last := by rw [same, List.getLast?_concat]
    have positive : 0 < (p.moras.map Mora.phonemeCount).sum := by
      have own := last.phonemeCount_pos
      rw [same, List.map_append, List.sum_append, List.map_singleton, List.sum_singleton]
      omega
    intro s mem
    simp only [rises, lastSlot?, lastMora, Option.map_some] at mem
    split at mem
    · rw [List.mem_singleton.1 mem]
      show start + (p.moras.map Mora.phonemeCount).sum - 1 < n
      omega
    · cases mem

theorem AccentPhrase.within_slots {p : AccentPhrase} {start n : Nat} (pitches : List Float32)
    (enough : start + p.phonemeCount ≤ n) : ∀ s ∈ p.slots pitches start, s.Within n := by
  have shares := p.shareCount_le_phonemeCount
  rw [shareCount] at shares
  rw [slots]
  refine List.forall_mem_append.2 ⟨List.forall_mem_append.2 ⟨?_, ?_⟩, ?_⟩
  · refine forall_mem_flatten_mapOffsets (fun m _ start fits => m.within_slots fits) start ?_
    omega
  · exact within_rises pitches (by omega)
  · cases h : p.pause with
    | none => simp
    | some m =>
      rw [h, Option.toList_some, List.length_singleton] at shares
      simp [Slot.Within]
      omega

/-- Every slot refers to phoneme positions. -/
theorem within_slots (pitches : List Float32) (phrases : List AccentPhrase) :
    ∀ s ∈ slots pitches phrases, s.Within (phonemeTotal phrases) := by
  have enough : 0 + (phrases.map AccentPhrase.phonemeCount).sum ≤ phonemeTotal phrases := by
    rw [Nat.zero_add]
    exact Nat.le_refl _
  exact forall_mem_flatten_mapOffsets (fun p _ start fits => p.within_slots pitches fits) 0 enough

end KanaVoice
