import KanaVoice.Proofs.Kana.RoundTrip
set_option autoImplicit false

/-!
# Texts with a delimiter between them

A delimiter between two texts ends the last piece of the first one and leaves all pieces as they
are, those of the second text included.  So the phrases of the joined text are those of the two
texts, the last one of the first text with a pause behind it if the delimiter asks for one, and the
first fault is that of the first text, or else that of the second.
-/

namespace KanaVoice.Kana

/-! ## Pieces -/

/-- The last piece of a text has no delimiter behind it.  When more text follows behind a delimiter
the last piece gets that one, and nothing else about the pieces changes. -/
theorem exists_pieces_join (a : List Char) :
    ∃ init last, pieces a = init ++ [(last, none)] ∧
      ∀ (d : Delimiter) (b : List Char),
        pieces (a ++ d.char :: b) = init ++ (last, some d) :: pieces b := by
  induction a with
  | nil => exact ⟨[], [], rfl, fun d b => pieces_append (by simp [Undelimited]) d b⟩
  | cons c a ih =>
    obtain ⟨init, last, alone, joined⟩ := ih
    -- A character in front starts a piece of its own or goes to the first one, which is also the
    -- last one if there is no other.
    cases delimiter : Delimiter.ofChar? c with
    | some own =>
      refine ⟨([], some own) :: init, last, ?_, fun d b => ?_⟩
      · rw [pieces, delimiter, alone]
        rfl
      · rw [List.cons_append, pieces, delimiter, joined]
        rfl
    | none =>
      cases init with
      | nil =>
        refine ⟨[], c :: last, ?_, fun d b => ?_⟩
        · rw [pieces, delimiter, alone]
          rfl
        · rw [List.cons_append, pieces, delimiter, joined]
          rfl
      | cons first init =>
        refine ⟨(c :: first.1, first.2) :: init, last, ?_, fun d b => ?_⟩
        · rw [pieces, delimiter, alone]
          rfl
        · rw [List.cons_append, pieces, delimiter, joined]
          rfl

/-! ## Phrases -/

/-- The phrase in front of a delimiter. -/
def beforeDelimiter (d : Delimiter) (p : AccentPhrase) : AccentPhrase :=
  if d = .pause then { p with pause := some .pause } else p

theorem readPiece_none (piece : List Char) : readPiece (piece, none) = readPhrase piece := by
  rw [readPiece]
  cases readPhrase piece <;> rfl

theorem readPiece_some (piece : List Char) (d : Delimiter) :
    readPiece (piece, some d) = beforeDelimiter d <$> readPhrase piece := by
  rw [readPiece]
  cases readPhrase piece with
  | error reason => rfl
  | ok p => cases d <;> rfl

/-- The phrases of a joined text are those of both texts, and its first fault is that of the first
text that has one. -/
theorem readPieces_join (a b : List Char) (d : Delimiter) :
    (pieces (a ++ d.char :: b)).mapM readPiece = (do
      let front ← (pieces a).mapM readPiece
      let back ← (pieces b).mapM readPiece
      pure (front.modifyLast (beforeDelimiter d) ++ back)) := by
  obtain ⟨init, last, alone, joined⟩ := exists_pieces_join a
  rw [alone, joined]
  simp only [List.mapM_append, List.mapM_cons, List.mapM_nil, readPiece_none, readPiece_some,
    bind_assoc, pure_bind, bind_map_left, List.modifyLast_concat, List.append_assoc,
    List.cons_append, List.nil_append]

/-! ## Texts -/

/-- Two texts with a delimiter between them. -/
def joinTexts (a : String) (d : Delimiter) (b : String) : String :=
  a ++ String.singleton d.char ++ b

theorem toList_joinTexts (a : String) (d : Delimiter) (b : String) :
    (joinTexts a d b).toList = a.toList ++ d.char :: b.toList := by
  simp [joinTexts]

theorem joinTexts_ne_empty (a : String) (d : Delimiter) (b : String) : joinTexts a d b ≠ "" := by
  intro empty
  simpa [toList_joinTexts] using congrArg String.toList empty

theorem read_of_ne_empty {text : String} (nonempty : text ≠ "") :
    read text = ((pieces text.toList).mapM readPiece).mapError (.kana text) := by
  rw [read, if_neg nonempty]

theorem read_joinTexts (a : String) (d : Delimiter) (b : String) :
    read (joinTexts a d b) = Except.mapError (.kana (joinTexts a d b)) (do
      let front ← (pieces a.toList).mapM readPiece
      let back ← (pieces b.toList).mapM readPiece
      pure (front.modifyLast (beforeDelimiter d) ++ back)) := by
  rw [read_of_ne_empty (joinTexts_ne_empty a d b), toList_joinTexts, readPieces_join]

theorem read_eq_error_iff {text : String} (nonempty : text ≠ "") {fault : Fault} :
    read text = .error fault ↔ ∃ reason, fault = .kana text reason ∧
      (pieces text.toList).mapM readPiece = .error reason := by
  rw [read_of_ne_empty nonempty]
  cases (pieces text.toList).mapM readPiece with
  | ok phrases => simp [Except.mapError]
  | error reason => simp [Except.mapError, eq_comm]

theorem readPieces_of_read {text : String} {phrases : List AccentPhrase} (nonempty : text ≠ "")
    (isRead : read text = .ok phrases) : (pieces text.toList).mapM readPiece = .ok phrases := by
  rwa [read_of_ne_empty nonempty, mapError_eq_ok_iff] at isRead

theorem read_joinTexts_of_ok {a b : String} {d : Delimiter} {p q : List AccentPhrase}
    (first : a ≠ "") (second : b ≠ "") (isRead : read a = .ok p) (isRead' : read b = .ok q) :
    read (joinTexts a d b) = .ok (p.modifyLast (beforeDelimiter d) ++ q) := by
  rw [read_joinTexts, readPieces_of_read first isRead, readPieces_of_read second isRead']
  rfl

theorem exists_last_of_read {text : String} {phrases : List AccentPhrase} (nonempty : text ≠ "")
    (isRead : read text = .ok phrases) : ∃ init last, phrases = init ++ [last] := by
  rcases List.eq_nil_or_concat' phrases with none | ⟨init, last, same⟩
  · exact absurd none (canonical_of_readPieces (readPieces_of_read nonempty isRead)).1
  · exact ⟨init, last, same⟩

/-- How the reading of two texts with a delimiter between them follows from that of either. -/
structure ReadsInParts (a b : String) : Prop where
  /-- What is wrong with the first text is reported for both, whatever the second one is. -/
  front : ∀ d reason, read a = .error (.kana a reason) →
    read (joinTexts a d b) = .error (.kana (joinTexts a d b) reason)
  /-- If the first text can be read, what is wrong with the second one is reported. -/
  back : ∀ d phrases reason, read a = .ok phrases → read b = .error (.kana b reason) →
    read (joinTexts a d b) = .error (.kana (joinTexts a d b) reason)
  /-- A slash puts the phrases of both texts behind one another. -/
  joint : ∀ p q, read a = .ok p → read b = .ok q → read (a ++ "/" ++ b) = .ok (p ++ q)
  /-- A comma does so too, with a pause behind the last phrase of the first text. -/
  pause : ∀ p q, read a = .ok p → read b = .ok q → ∃ init last, p = init ++ [last] ∧
    read (a ++ "、" ++ b) = .ok (init ++ { last with pause := some .pause } :: q)

/-- Two texts with a delimiter between them are read in parts, and every fault names the whole
text. -/
theorem readsInParts_and_namesWhole {a b : String} (first : a ≠ "") (second : b ≠ "") :
    ReadsInParts a b ∧
      ∀ text fault, read text = .error fault → ∃ reason, fault = .kana text reason := by
  refine ⟨?_, ?_⟩
  · constructor
    case front =>
      intro d reason unread
      obtain ⟨_, same, unread⟩ := (read_eq_error_iff first).1 unread
      cases same
      rw [read_joinTexts, unread]
      rfl
    case back =>
      intro d phrases reason isRead unread
      obtain ⟨_, same, unread⟩ := (read_eq_error_iff second).1 unread
      cases same
      rw [read_joinTexts, readPieces_of_read first isRead, unread]
      rfl
    case joint =>
      intro p q isRead isRead'
      show read (joinTexts a .joint b) = _
      rw [read_joinTexts_of_ok first second isRead isRead']
      have unchanged : p.modifyLast (beforeDelimiter .joint) = p := by
        obtain ⟨init, last, rfl⟩ := exists_last_of_read first isRead
        rw [List.modifyLast_concat]
        rfl
      rw [unchanged]
    case pause =>
      intro p q isRead isRead'
      obtain ⟨init, last, rfl⟩ := exists_last_of_read first isRead
      refine ⟨init, last, rfl, ?_⟩
      show read (joinTexts a .pause b) = _
      rw [read_joinTexts_of_ok first second isRead isRead', List.modifyLast_concat,
        List.append_assoc]
      rfl
  · intro text fault unread
    by_cases empty : text = ""
    · rw [empty] at unread
      cases unread
    · obtain ⟨reason, same, -⟩ := (read_eq_error_iff empty).1 unread
      exact ⟨reason, same⟩

/-- Two phrases before a pause, and behind it a text that is no notation. -/
theorem readsInParts_and_namesWhole_unread :
    "ア'/_シ'タ" ≠ "" ∧ "x" ≠ "" ∧
      read "ア'/_シ'タ、x" = .error (.kana "ア'/_シ'タ、x" (.unknownMora "x")) := by
  have phrases : read "ア'/_シ'タ" = .ok
      [{ moras := [.plain "ア" none "a"], accent := 1 },
       { moras := [.plain "シ" (some "sh") "I", .plain "タ" (some "t") "a"], accent := 1 }] :=
    read_eq_ok_iff.2 ⟨by decide +kernel, by decide +kernel⟩
  have unread : read "x" = .error (.kana "x" (.unknownMora "x")) := by decide +kernel
  have first : "ア'/_シ'タ" ≠ "" := by decide
  have second : "x" ≠ "" := by decide
  exact ⟨first, second, (readsInParts_and_namesWhole first second).1.back .pause _ _ phrases unread⟩

end KanaVoice.Kana
