import KanaVoice.Proofs.Except
import KanaVoice.Proofs.Speech.Placement
set_option autoImplicit false

/-!
# Placing on phrases put together

Placing takes values from the front, so phrases in a row are placed one after the other, the later
ones on what the earlier ones left.  They leave nothing as long as every pause is a vowel alone.  A
pause with a consonant is counted as two phonemes and takes one value: each of these moves the
values of all later phrases by one position, and no fault is reported.
-/

namespace KanaVoice

/-! ## Values behind those that are taken -/

/-- Placing leaves alone what stands behind the values it is given. -/
def TakesFromFront {α β : Type} (place : α → List β → Option (α × List β)) : Prop :=
  ∀ a values more placed rest, place a values = some (placed, rest) →
    place a (values ++ more) = some (placed, rest ++ more)

section

variable {α β : Type} {place : α → List β → Option (α × List β)}

theorem dealOut_cons_eq_some_iff {a : α} {l placed : List α} {values rest : List β} :
    dealOut place (a :: l) values = some (placed, rest) ↔
      ∃ first left others, place a values = some (first, left) ∧
        dealOut place l left = some (others, rest) ∧ placed = first :: others := by
  rw [dealOut]
  simp only [Option.bind_eq_bind, Option.bind_eq_some_iff, Option.some.injEq, Prod.mk.injEq,
    Prod.exists]
  constructor
  · rintro ⟨first, left, here, others, _, there, rfl, rfl⟩
    exact ⟨first, left, others, here, there, rfl⟩
  · rintro ⟨first, left, others, here, there, rfl⟩
    exact ⟨first, left, here, others, rest, there, rfl, rfl⟩

theorem TakesFromFront.dealOut (front : TakesFromFront place) :
    TakesFromFront (KanaVoice.dealOut place) := by
  intro l values more placed rest dealt
  induction l generalizing values placed with
  | nil =>
    cases dealt
    rfl
  | cons a l ih =>
    obtain ⟨first, left, others, here, there, rfl⟩ := dealOut_cons_eq_some_iff.1 dealt
    exact dealOut_cons_eq_some_iff.2
      ⟨first, left ++ more, others, front a _ more _ _ here, ih _ _ there, rfl⟩

/-- The second list is dealt what the first one left. -/
theorem dealOut_append {l r placed placed' : List α} {values left rest : List β}
    (first : dealOut place l values = some (placed, left))
    (second : dealOut place r left = some (placed', rest)) :
    dealOut place (l ++ r) values = some (placed ++ placed', rest) := by
  induction l generalizing values placed with
  | nil =>
    cases first
    exact second
  | cons a l ih =>
    obtain ⟨b, between, others, here, there, rfl⟩ := dealOut_cons_eq_some_iff.1 first
    exact dealOut_cons_eq_some_iff.2 ⟨b, between, others ++ placed', here, ih there, rfl⟩

end

namespace Mora

theorem takesFromFront_placeLengths : TakesFromFront placeLengths := by
  intro m values more placed rest taken
  unfold placeLengths at taken ⊢
  split at taken
  case h_1 consonant =>
    cases taken
    rw [consonant]
    rfl
  case h_2 bare =>
    cases taken
    rw [bare]
    rfl
  case h_3 => cases taken

theorem takesFromFront_placePitch : TakesFromFront placePitch := by
  intro m values more placed rest taken
  unfold placePitch at taken ⊢
  simp only [] at taken ⊢
  split at taken
  case h_1 consonant =>
    cases taken
    rw [consonant]
    rfl
  case h_2 bare =>
    cases taken
    rw [bare]
    rfl
  case h_3 => cases taken

theorem takesFromFront_placePauseLength : TakesFromFront placePauseLength := by
  intro m values more placed rest taken
  unfold placePauseLength at taken ⊢
  split at taken
  · cases taken
    rfl
  · cases taken

theorem takesFromFront_placePausePitch : TakesFromFront placePausePitch := by
  intro m values more placed rest taken
  unfold placePausePitch at taken ⊢
  split at taken
  · cases taken
    rfl
  · cases taken

end Mora

namespace AccentPhrase

theorem takesFromFront_place {mora pause : Mora → List Float32 → Option (Mora × List Float32)}
    (said : TakesFromFront mora) (behind : TakesFromFront pause) :
    TakesFromFront (place mora pause) := by
  intro p values more placed rest taken
  unfold place at taken ⊢
  obtain ⟨⟨moras, left⟩, here, taken⟩ := Option.bind_eq_some_iff.1 taken
  rw [said.dealOut _ _ more _ _ here]
  cases h : p.pause with
  | none =>
    simp only [h] at taken ⊢
    cases taken
    rfl
  | some m =>
    simp only [h] at taken ⊢
    obtain ⟨⟨m', _⟩, there, taken⟩ := Option.bind_eq_some_iff.1 taken
    cases taken
    simp [behind _ _ more _ _ there]

/-! ## Pauses with a consonant -/

/-- The phrase's pause has a consonant. -/
def pauseHasConsonant (p : AccentPhrase) : Bool := (p.pause.bind Mora.consonant).isSome

theorem hasBarePause_iff (p : AccentPhrase) : p.HasBarePause ↔ p.pauseHasConsonant = false := by
  unfold HasBarePause pauseHasConsonant
  cases p.pause <;> simp

/-- The consonant of a pause is counted but takes no value. -/
theorem phonemeCount_eq_shareCount_add (p : AccentPhrase) :
    p.phonemeCount = p.shareCount + if p.pauseHasConsonant then 1 else 0 := by
  rw [phonemeCount_eq_sum, shareCount, pauseHasConsonant]
  cases p.pause with
  | none => rfl
  | some m =>
    rw [Option.toList_some, List.map_singleton, List.sum_singleton, Mora.phonemeCount]
    cases h : m.consonant <;> simp [h]

end AccentPhrase

/-- How many values placing on phrases takes. -/
def takenTotal (phrases : List AccentPhrase) : Nat := (phrases.map AccentPhrase.shareCount).sum

theorem phonemeTotal_eq_takenTotal_add (phrases : List AccentPhrase) :
    phonemeTotal phrases =
      takenTotal phrases + phrases.countP AccentPhrase.pauseHasConsonant := by
  induction phrases with
  | nil => rfl
  | cons p rest ih =>
    rw [phonemeTotal_eq_sum, takenTotal] at ih ⊢
    rw [List.map_cons, List.sum_cons, ih, p.phonemeCount_eq_shareCount_add, List.map_cons,
      List.sum_cons, List.countP_cons]
    omega

theorem phonemeTotal_append (phrases others : List AccentPhrase) :
    phonemeTotal (phrases ++ others) = phonemeTotal phrases + phonemeTotal others := by
  simp only [phonemeTotal_eq_sum, List.map_append, List.sum_append]

/-! ## Phrases put together -/

/-- Placing on the phrases and on others behind them is placing on each with its own values. -/
def IsLocalAt (pass : List AccentPhrase → List Float32 → Except Fault (List AccentPhrase))
    (phrases : List AccentPhrase) : Prop :=
  ∀ others u v, u.length = phonemeTotal phrases → v.length = phonemeTotal others →
    pass (phrases ++ others) (u ++ v) = do
      let first ← pass phrases u
      let second ← pass others v
      .ok (first ++ second)

/-- What a pass that places values on phrases makes of the phrases and of others behind them. -/
structure Joins (place : AccentPhrase → List Float32 → Option (AccentPhrase × List Float32))
    (pass : List AccentPhrase → List Float32 → Except Fault (List AccentPhrase))
    (phrases : List AccentPhrase) : Prop where
  /-- A phrase takes its share from the front. -/
  taken : ∀ p ∈ phrases, ∀ values, p.shareCount ≤ values.length →
    ∃ placed, place p values = some (placed, values.drop p.shareCount)
  /-- The phonemes that are counted are those that take a value, and the consonants of pauses. -/
  counted : phonemeTotal phrases =
    takenTotal phrases + phrases.countP AccentPhrase.pauseHasConsonant
  /-- As many values as there are phonemes can be placed. -/
  places : ∀ values, values.length = phonemeTotal phrases → ∃ placed, pass phrases values = .ok placed
  /-- Phrases behind get the values that follow those that are taken. -/
  joined : ∀ others u v, u.length = phonemeTotal phrases → v.length = phonemeTotal others →
    pass (phrases ++ others) (u ++ v) = do
      let first ← pass phrases u
      let second ← pass others (((u ++ v).drop (takenTotal phrases)).take (phonemeTotal others))
      .ok (first ++ second)
  /-- These are their own values whatever they are exactly if every pause is a vowel alone. -/
  own : IsLocalAt pass phrases ↔ ∀ p ∈ phrases, p.HasBarePause

/-- Each phrase takes its share from the front of the values and leaves the rest alone. -/
structure DealsShares (place : AccentPhrase → List Float32 → Option (AccentPhrase × List Float32)) :
    Prop where
  front : TakesFromFront place
  share : ∀ p values, p.shareCount ≤ values.length →
    ∃ placed, place p values = some (placed, values.drop p.shareCount)

theorem dealsShares_placeLengths : DealsShares AccentPhrase.placeLengths where
  front := AccentPhrase.takesFromFront_place Mora.takesFromFront_placeLengths
    Mora.takesFromFront_placePauseLength
  share p values enough := by
    have placed := p.placeLengths_drop 0 (by rwa [Nat.zero_add])
    rw [List.drop_zero, Nat.zero_add] at placed
    exact ⟨_, placed⟩

theorem dealsShares_placePitches : DealsShares AccentPhrase.placePitches where
  front := AccentPhrase.takesFromFront_place Mora.takesFromFront_placePitch
    Mora.takesFromFront_placePausePitch
  share p values enough := by
    have placed := p.placePitches_drop 0 (by rwa [Nat.zero_add])
    rw [List.drop_zero, Nat.zero_add] at placed
    exact ⟨_, placed⟩

/-- A single vowel. -/
def singleVowel : AccentPhrase := { moras := [.plain "ア" none "a"], accent := 1 }

namespace DealsShares

variable {place : AccentPhrase → List Float32 → Option (AccentPhrase × List Float32)}
  {phrases others : List AccentPhrase} {values u v : List Float32}

theorem dealOut (deals : DealsShares place) (enough : takenTotal phrases ≤ values.length) :
    ∃ placed, KanaVoice.dealOut place phrases values =
      some (placed, values.drop (takenTotal phrases)) := by
  induction phrases generalizing values with
  | nil => exact ⟨[], rfl⟩
  | cons p rest ih =>
    have split : takenTotal (p :: rest) = p.shareCount + takenTotal rest := by
      rw [takenTotal, takenTotal, List.map_cons, List.sum_cons]
    rw [split] at enough ⊢
    have left : takenTotal rest ≤ (values.drop p.shareCount).length := by
      rw [List.length_drop]
      omega
    obtain ⟨first, here⟩ := deals.share p values (by omega)
    obtain ⟨later, there⟩ := ih left
    rw [List.drop_drop] at there
    exact ⟨first :: later, dealOut_cons_eq_some_iff.2 ⟨first, _, later, here, there, rfl⟩⟩

theorem exists_placeValues (deals : DealsShares place) (what : String)
    (aligned : values.length = phonemeTotal phrases) :
    ∃ placed, placeValues what place phrases values = .ok placed ∧
      KanaVoice.dealOut place phrases values = some (placed, values.drop (takenTotal phrases)) := by
  have counted := phonemeTotal_eq_takenTotal_add phrases
  have enough : takenTotal phrases ≤ values.length := by omega
  obtain ⟨placed, dealt⟩ := deals.dealOut enough
  exact ⟨placed, by simp [placeValues, aligned, dealt], dealt⟩

theorem placeValues_append (deals : DealsShares place) (what : String)
    (hu : u.length = phonemeTotal phrases)
    (hv : v.length = phonemeTotal others) :
    placeValues what place (phrases ++ others) (u ++ v) = (do
      let first ← placeValues what place phrases u
      let second ← placeValues what place others
        (((u ++ v).drop (takenTotal phrases)).take (phonemeTotal others))
      .ok (first ++ second)) := by
  have counted := phonemeTotal_eq_takenTotal_add phrases
  obtain ⟨first, placed, dealt⟩ := deals.exists_placeValues what hu
  generalize left : (u ++ v).drop (takenTotal phrases) = values
  have size : (values.take (phonemeTotal others)).length = phonemeTotal others := by
    rw [← left, List.length_take, List.length_drop, List.length_append]
    omega
  obtain ⟨second, placed', dealt'⟩ := deals.exists_placeValues what size
  have before : KanaVoice.dealOut place phrases (u ++ v) = some (first, values) := by
    rw [deals.front.dealOut _ _ v _ _ dealt, ← left, List.drop_append_of_le_length (by omega)]
  have rest := deals.front.dealOut _ _ (values.drop (phonemeTotal others)) _ _ dealt'
  rw [List.take_append_drop] at rest
  have whole := dealOut_append before rest
  have aligned : (u ++ v).length = phonemeTotal (phrases ++ others) := by
    rw [List.length_append, phonemeTotal_append, hu, hv]
  rw [placed, except_ok_bind, placed', except_ok_bind]
  simp [placeValues, aligned, whole]

/-- Behind a pause with a consonant a vowel gets the value before its own. -/
theorem isLocalAt_iff (deals : DealsShares place) (what : String)
    (differs : placeValues what place [singleVowel] [0] ≠ placeValues what place [singleVowel] [1]) :
    IsLocalAt (placeValues what place) phrases ↔ ∀ p ∈ phrases, p.HasBarePause := by
  have counted := phonemeTotal_eq_takenTotal_add phrases
  have bareIff : (∀ p ∈ phrases, p.HasBarePause) ↔
      phrases.countP AccentPhrase.pauseHasConsonant = 0 := by
    rw [List.countP_eq_zero]
    refine forall₂_congr fun p _ => ?_
    rw [p.hasBarePause_iff, Bool.not_eq_true]
  rw [bareIff]
  constructor
  · intro isLocal
    by_contra some
    let u : List Float32 := List.replicate (phonemeTotal phrases) 0
    have hu : u.length = phonemeTotal phrases := List.length_replicate
    have shifted : ((u ++ [1]).drop (takenTotal phrases)).take 1 = [0] := by
      have rest : phonemeTotal phrases - takenTotal phrases =
          (phonemeTotal phrases - takenTotal phrases - 1) + 1 := by omega
      rw [List.drop_append_of_le_length (by omega), List.drop_replicate, rest,
        List.replicate_succ]
      rfl
    have whole := isLocal [singleVowel] u [1] hu rfl
    obtain ⟨first, placed, -⟩ := deals.exists_placeValues what hu
    have single : phonemeTotal [singleVowel] = 1 := rfl
    have size (x : Float32) : [x].length = phonemeTotal [singleVowel] := single.symm
    obtain ⟨zero, atZero, -⟩ := deals.exists_placeValues what (size 0)
    obtain ⟨one, atOne, -⟩ := deals.exists_placeValues what (size 1)
    rw [deals.placeValues_append what hu rfl, single, shifted, placed, except_ok_bind,
      except_ok_bind, atZero, atOne] at whole
    have same : zero = one := List.append_cancel_left (Except.ok.inj whole)
    exact differs (by rw [atZero, atOne, same])
  · intro none others u v hu hv
    have all : takenTotal phrases = u.length := by omega
    rw [deals.placeValues_append what hu hv, all, List.drop_left, ← hv, List.take_length]

theorem joins (deals : DealsShares place) (what : String)
    (differs : placeValues what place [singleVowel] [0] ≠ placeValues what place [singleVowel] [1])
    (phrases : List AccentPhrase) : Joins place (placeValues what place) phrases where
  taken p _ := deals.share p
  counted := phonemeTotal_eq_takenTotal_add phrases
  places values aligned := by
    obtain ⟨placed, ok, -⟩ := deals.exists_placeValues what aligned
    exact ⟨placed, ok⟩
  joined _ _ _ hu hv := deals.placeValues_append what hu hv
  own := deals.isLocalAt_iff what differs

end DealsShares

/-- Lengths and pitches of phrases in a row are placed one phrase after the other; all phrases get
their own values exactly if every pause is a vowel alone, and are moved by one position for each
pause before them that has a consonant. -/
theorem joins_withLengths_and_withPitches (phrases : List AccentPhrase) :
    Joins AccentPhrase.placeLengths withLengths phrases ∧
    Joins AccentPhrase.placePitches withPitches phrases :=
  ⟨dealsShares_placeLengths.joins _ (by decide) phrases,
    dealsShares_placePitches.joins _ (by decide) phrases⟩

/-- A pause with a consonant. -/
def consonantPause : List AccentPhrase :=
  [{ moras := [], accent := 0, pause := some (.plain "、" (some "k") "pau") }]

/-- With three values for a pause of two phonemes and a vowel, the vowel gets the second. -/
theorem withLengths_consonantPause_append :
    phonemeTotal consonantPause = 2 ∧ phonemeTotal [singleVowel] = 1 ∧
    withLengths (consonantPause ++ [singleVowel]) ([1, 2] ++ [3]) ≠ (do
      let first ← withLengths consonantPause [1, 2]
      let second ← withLengths [singleVowel] [3]
      .ok (first ++ second)) ∧
    withPitches (consonantPause ++ [singleVowel]) ([1, 2] ++ [3]) ≠ (do
      let first ← withPitches consonantPause [1, 2]
      let second ← withPitches [singleVowel] [3]
      .ok (first ++ second)) := by
  decide

end KanaVoice
