import KanaVoice.Proofs.Kana.LongestMatch
import KanaVoice.Proofs.Kana.Phrase
set_option autoImplicit false

/-!
# Scanning a phrase by bytes

The morae of a phrase can be scanned with a text that is left, from whose front each turn cuts the
bytes of what it has read.  A turn cuts off a mark, or an underline and the kana behind it, or a
kana, and what it cuts off ends where a character ends.  Since it is never empty, the turns come to
an end, and they come to what reading the characters does.
-/

namespace KanaVoice.Kana

/-! ## Turns -/

/-- Where the scanner is: the text that is left, the morae so far and the place of the accent. -/
structure Scan where
  rest : String
  moras : List Mora := []
  accent : Option Nat := none

/-- What a turn of the scanner comes to. -/
inductive Turn where
  | done
  | fault (reason : KanaFault)
  /-- Bytes were to be cut off that end within a character or behind the text. -/
  | split
  | next (s : Scan)

/-- Goes on with the text behind its first bytes. -/
def Turn.behind (text : String) (size : Nat) (go : String → Turn) : Turn :=
  match Text.cut? text size with
  | some rest => go rest
  | none => .split

theorem Turn.behind_append (first rest : String) (go : String → Turn) :
    Turn.behind (first ++ rest) first.utf8ByteSize go = go rest := by
  rw [Turn.behind, Text.cut?_append]

/-- The vowel of a kana, devoiced if there is an underline in front. -/
def Found.spokenVowel (found : Found) (devoiced : Bool) : Except KanaFault String :=
  if devoiced then
    if found.vowel ∈ voicedVowels then .ok found.vowel.toUpper
    else .error (.cannotDevoice found.kana)
  else .ok found.vowel

namespace Scan

/-- Takes the accent mark in front. -/
def takeAccent (s : Scan) : Turn :=
  if s.moras.isEmpty then .fault .accentBeforeMora
  else if s.accent.isSome then .fault .secondAccent
  else
    .behind s.rest accentMark.utf8Size fun rest =>
      .next { s with rest := rest, accent := some s.moras.length }

/-- Takes the mora whose kana is in front of the text. -/
def takeMora (s : Scan) (devoiced : Bool) (text : String) : Turn :=
  match findKana? text with
  | none => .fault (.unknownMora text)
  | some found =>
    match found.spokenVowel devoiced with
    | .error reason => .fault reason
    | .ok vowel =>
      .behind text found.size fun rest =>
        .next { s with
          rest := rest
          moras := s.moras ++ [.plain found.kana found.consonant vowel] }

/-- One turn of the scanner. -/
def turn (s : Scan) : Turn :=
  match s.rest.toList.head? with
  | none => .done
  | some c =>
    if c = accentMark then s.takeAccent
    else if c = devoiceMark then .behind s.rest devoiceMark.utf8Size (s.takeMora true)
    else s.takeMora false s.rest

/-! ## What turns come to -/

/-- What is left read as characters, behind the morae so far. -/
def read (s : Scan) : Except KanaFault (List Mora × Option Nat) :=
  (readMoras s.moras.length s.accent s.rest.toList).map fun (moras, accent) =>
    (s.moras ++ moras, accent)

/-- The turn keeps to what is read, and what it cuts off is not empty and ends with a
character. -/
inductive Follows (s : Scan) : Turn → Prop
  | done (read : s.read = .ok (s.moras, s.accent)) : s.Follows .done
  | fault {reason : KanaFault} (read : s.read = .error reason) : s.Follows (.fault reason)
  | next {s' : Scan} (taken : String) (nonempty : taken ≠ "") (split : s.rest = taken ++ s'.rest)
    (read : s'.read = s.read) : s.Follows (.next s')

end Scan

theorem eq_singleton_append {text : String} {c : Char} {rest : List Char}
    (h : text.toList = c :: rest) : text = String.singleton c ++ String.ofList rest := by
  apply String.ext
  rw [h, String.toList_append, String.toList_singleton, String.toList_ofList,
    List.singleton_append]

theorem Turn.behind_head {text : String} {c : Char} {rest : List Char} (h : text.toList = c :: rest)
    (go : String → Turn) : Turn.behind text c.utf8Size go = go (String.ofList rest) := by
  rw [eq_singleton_append h, ← String.utf8ByteSize_singleton, Turn.behind_append]

theorem singleton_ne_empty (c : Char) : String.singleton c ≠ "" := by
  intro empty
  have chars := congrArg String.toList empty
  rw [String.toList_singleton] at chars
  cases chars

theorem readMoras_of_unknown {c : Char} {rest : List Char} (other : c ≠ accentMark)
    (unknown : longestPrefix? (dropDevoiceMark (c :: rest)) = none) (count : Nat)
    (accent : Option Nat) :
    readMoras count accent (c :: rest) =
      .error (.unknownMora (String.ofList (dropDevoiceMark (c :: rest)))) := by
  rw [readMoras, if_neg other]
  split
  case h_1 => rfl
  case h_2 e present => simp [unknown] at present

theorem Entry.spokenVowel_found (e : Entry) (c : Char) :
    e.found.spokenVowel (decide (c = devoiceMark)) = readVowel c e := by
  rw [Found.spokenVowel, readVowel]
  simp only [decide_eq_true_eq]
  refine if_congr Iff.rfl ?_ rfl
  show (if e.vowel ∈ voicedVowels then Except.ok e.vowel.toUpper
    else Except.error (KanaFault.cannotDevoice e.kana)) = _
  cases devoiced : devoice? e.vowel with
  | some vowel =>
    obtain ⟨voiced, rfl⟩ := devoice?_eq_some_iff.1 devoiced
    rw [if_pos voiced]
  | none =>
    rw [if_neg]
    intro voiced
    rw [devoice?_eq_some_iff.2 ⟨voiced, rfl⟩] at devoiced
    cases devoiced

namespace Scan

variable {s : Scan}

theorem follows_takeAccent {rest : List Char} (h : s.rest.toList = accentMark :: rest) :
    s.Follows s.takeAccent := by
  unfold takeAccent
  split_ifs with unread accented
  · refine .fault ?_
    rw [read, h, readMoras, if_pos rfl, if_pos (by simpa using unread)]
    rfl
  · refine .fault ?_
    rw [read, h, readMoras, if_pos rfl, if_neg (by simpa using unread), if_pos accented]
    rfl
  · rw [Turn.behind_head h]
    refine .next (String.singleton accentMark) (singleton_ne_empty _) (eq_singleton_append h) ?_
    rw [read, read, h, readMoras, if_pos rfl, if_neg (by simpa using unread), if_neg accented,
      String.toList_ofList]

theorem read_push (rest : String) (m : Mora) :
    ({ s with rest := rest, moras := s.moras ++ [m] } : Scan).read =
      (readMoras (s.moras.length + 1) s.accent rest.toList).map fun (moras, accent) =>
        (s.moras ++ m :: moras, accent) := by
  simp only [read, List.length_append, List.length_singleton, List.append_assoc,
    List.singleton_append]

/-- A mora is taken from the text behind the mark that may stand in front of it. -/
theorem follows_takeMora {c : Char} {rest : List Char} (h : s.rest.toList = c :: rest)
    (other : c ≠ accentMark) {front text : String} (split : s.rest = front ++ text)
    (dropped : dropDevoiceMark (c :: rest) = text.toList) :
    s.Follows (s.takeMora (decide (c = devoiceMark)) text) := by
  unfold takeMora
  cases first : firstMatch? text with
  | none =>
    have unknown : longestPrefix? (dropDevoiceMark (c :: rest)) = none := by
      rw [dropped, ← firstMatch?_eq, first]
    rw [findKana?, first]
    refine .fault ?_
    rw [read, h, readMoras_of_unknown other unknown, dropped, String.ofList_toList]
    rfl
  | some e =>
    have found : longestPrefix? (dropDevoiceMark (c :: rest)) = some e := by
      rw [dropped, ← firstMatch?_eq, first]
    -- The kana is in front of the text, so that cutting off its bytes leaves what dropping its
    -- characters does.
    have longest := isLongest_of_firstMatch? first
    obtain ⟨behind, rfl⟩ := longest.starts
    have drop : (dropDevoiceMark (c :: rest)).drop e.kana.toList.length = behind.toList := by
      rw [dropped, String.toList_append, List.drop_left]
    have reads := readMoras_of_longestPrefix? other found s.moras.length s.accent
    rw [drop] at reads
    simp only [findKana?, first, Option.map_some, Entry.spokenVowel_found]
    cases vowel : readVowel c e with
    | error reason =>
      refine .fault ?_
      rw [read, h, reads, vowel]
      rfl
    | ok vowel =>
      show s.Follows (.behind (e.kana ++ behind) e.kana.utf8ByteSize _)
      rw [Turn.behind_append]
      refine .next (front ++ e.kana) ?_ (by rw [split, String.append_assoc]) ?_
      · intro empty
        have size := size_kana_pos longest.mem
        rw [(String.append_eq_empty_iff.1 empty).2] at size
        cases size
      · rw [read_push, read, h, reads, vowel, except_ok_bind]
        cases readMoras (s.moras.length + 1) s.accent behind.toList <;> rfl

/-- No turn splits a character, and each one that goes on has taken some. -/
theorem follows_turn (s : Scan) : s.Follows s.turn := by
  unfold turn
  cases h : s.rest.toList with
  | nil =>
    refine .done ?_
    rw [read, h, readMoras]
    exact congrArg (fun moras => Except.ok (moras, s.accent)) (List.append_nil s.moras)
  | cons c rest =>
    rw [List.head?_cons]
    show s.Follows (if c = accentMark then _ else _)
    split_ifs with accent devoice
    · subst accent
      exact follows_takeAccent h
    · subst devoice
      rw [Turn.behind_head h]
      exact follows_takeMora h accent (eq_singleton_append h) (by simp [dropDevoiceMark])
    · have taken := follows_takeMora h accent (String.empty_append).symm
        (by simp [dropDevoiceMark, devoice, h])
      rwa [decide_eq_false devoice] at taken

/-! ## Scans -/

theorem follows_of_turn {turn : Turn} (h : s.turn = turn) : s.Follows turn := h ▸ s.follows_turn

theorem turn_shortens {s' : Scan} (h : s.turn = .next s') :
    s'.rest.utf8ByteSize < s.rest.utf8ByteSize := by
  cases follows_of_turn h with
  | next taken nonempty split read =>
    have size := mt String.utf8ByteSize_eq_zero_iff.1 nonempty
    rw [split, String.utf8ByteSize_append]
    omega

/-- The turns of the scanner up to its last one; none when one is to cut within a character. -/
def run (s : Scan) : Option (Except KanaFault (List Mora × Option Nat)) :=
  match _h : s.turn with
  | .done => some (.ok (s.moras, s.accent))
  | .fault reason => some (.error reason)
  | .split => none
  | .next s' => s'.run
termination_by s.rest.utf8ByteSize
decreasing_by exact turn_shortens _h

/-- A run comes to what is read, since each of its turns does. -/
theorem run_eq (s : Scan) : s.run = some s.read := by
  fun_induction run s with
  | case1 s last =>
    cases follows_of_turn last with
    | done read => rw [read]
  | case2 s reason last =>
    cases follows_of_turn last with
    | fault read => rw [read]
  | case3 s last => cases follows_of_turn last
  | case4 s s' turn ih =>
    cases follows_of_turn turn with
    | next taken nonempty split read => rw [ih, read]

end Scan

/-- How the scanner goes over a text.  Where it looks for a kana, it finds the longest one that is
there; wherever it is, its turn goes on, if at all, behind a part of the text that is not empty; and
it comes to an end with what reading the characters comes to. -/
structure ScansByLongestMatch (text : String) : Prop where
  finds : FindsLongest text
  unsplit : ∀ s : Scan, s.rest = text → s.turn ≠ .split
  advances : ∀ s s' : Scan, s.rest = text → s.turn = .next s' →
    (∃ taken, taken ≠ "" ∧ text = taken ++ s'.rest) ∧ s'.rest.utf8ByteSize < text.utf8ByteSize
  ends : Scan.run { rest := text } = some (readMoras 0 none text.toList)

theorem scansByLongestMatch (text : String) : ScansByLongestMatch text where
  finds := findsLongest text
  unsplit s h split := nomatch Scan.follows_of_turn split
  advances s s' h next := by
    subst h
    refine ⟨?_, Scan.turn_shortens next⟩
    cases Scan.follows_of_turn next with
    | next taken nonempty split read => exact ⟨taken, nonempty, split⟩
  ends := by
    rw [Scan.run_eq, Scan.read]
    show some ((readMoras 0 none text.toList).map fun (moras, accent) => ([] ++ moras, accent)) = _
    cases readMoras 0 none text.toList <;> rfl

end KanaVoice.Kana
