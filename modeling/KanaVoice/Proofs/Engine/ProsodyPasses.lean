import KanaVoice.Proofs.Engine.Alignment
import KanaVoice.Proofs.Engine.KanaSpeech
import KanaVoice.Proofs.Library.Attempt
import KanaVoice.Proofs.Speech.WithoutProsody
set_option autoImplicit false

/-!
# One pass or two

Lengths and pitches can be given to phrases in one pass or in two, in either order.  Each pass runs
the variance model on the symbols of the phrases, and these do not depend on what an earlier pass
has placed.  So a session that answers by its inputs answers each pass alike, and what is placed is
the same.
-/

namespace KanaVoice

variable {S : Type} (b : Backend S)

/-! ## What a pass submits -/

/-- Phrases of the same symbols are encoded alike, up to their morae. -/
theorem encode_of_sameSymbols {phrases others : List AccentPhrase}
    (same : SameSymbols phrases others) (symbols : SymbolTable) :
    encode symbols phrases =
      (encode symbols others).map fun c => { c with moras := flattenMoras phrases } := by
  unfold encode
  simp only [same.phonemes, same.accents]
  cases symbols.ids .phoneme (phonemeSymbols (flattenMoras others)) with
  | error fault => rfl
  | ok phonemes => cases symbols.ids .accent (accentSymbols others) <;> rfl

namespace Voices

variable {v v' : Voices S} {phrases others : List AccentPhrase} {speaker : Int64}
  {sessions : Sessions S}

theorem submission_congr (symbols : v'.symbols = v.symbols) (same : SameSymbols phrases others)
    (speaker : Int64) : v'.submission phrases speaker = v.submission others speaker := by
  unfold submission
  rw [symbols, encode_of_sameSymbols same]
  cases encode v.symbols others <;> rfl

theorem predict_congr (same : SameSymbols phrases others) (speaker : Int64) :
    v.predict b phrases speaker = v.predict b others speaker := by
  unfold predict
  rw [encode_of_sameSymbols same]
  cases encode v.symbols others <;> rfl

end Voices

/-- A run of the variance model was given these tensors. -/
def Event.SubmitsVariance (submission : Except Fault (List NamedTensor)) : Event S → Prop
  | .run .variance _ inputs _ => submission = .ok inputs
  | _ => True

/-! ## Steady sessions -/

/-- The session answers by its inputs, whatever has happened before. -/
def Backend.SteadySession (session : S) : Prop :=
  ∀ inputs history history', b.run history session inputs = b.run history' session inputs

theorem steady_variance {sessions : Sessions S} (h : b.SteadySession sessions.variance)
    (phonemes accents : List Int) (speaker : Int64) :
    Steady (b.variance sessions phonemes accents speaker) := by
  rw [variance_eq]
  split
  · exact .throw _
  · split
    · exact .pure _
    · refine .bind (.lift _) fun inputs => ?_
      refine .bind ?_ fun outputs => .lift _
      intro history history'
      rw [outcome_runSession, outcome_runSession, h inputs history history']

theorem Voices.steady_predict {v : Voices S} {speaker : Int64} {sessions : Sessions S}
    (found : v.catalogue.sessions speaker = .ok sessions)
    (h : b.SteadySession sessions.variance) (phrases : List AccentPhrase) :
    Steady (v.predict b phrases speaker) := by
  refine .bind (.lift _) fun encoding => ?_
  refine .liftBind fun sessions' found' => ?_
  rw [found, Except.ok.injEq] at found'
  subst found'
  exact steady_variance b h _ _ speaker

/-! ## Passes -/

namespace Engine

variable {v : Voices S} {e e' : Engine S} {speaker : Int64} {phrases : List AccentPhrase}

/-- A pass: the prediction for a loaded speaker is placed on the phrases. -/
def pass (speaker : Int64)
    (place : Prediction → List AccentPhrase → Except Fault (List AccentPhrase))
    (phrases : List AccentPhrase) : Op S (List AccentPhrase) := do
  let v ← requireLoaded b speaker
  let p ← perform (v.predict b phrases speaker)
  liftM (place p phrases)

theorem replaceProsody_eq_pass :
    replaceProsody b phrases speaker = pass b speaker withPrediction phrases := by
  unfold replaceProsody pass Voices.predictProsody Voices.predictLengths Voices.predictPitches
  unfold withPrediction
  simp only [perform_bind, bind_assoc, perform_liftM, pure_bind, liftM_bind]

theorem replaceLengths_eq_pass :
    replaceLengths b phrases speaker =
      pass b speaker (fun p phrases => withLengths phrases p.durations) phrases := by
  unfold replaceLengths pass Voices.predictLengths
  simp only [perform_bind, bind_assoc, perform_liftM, perform_pure, pure_bind, bind_pure]

theorem replacePitches_eq_pass :
    replacePitches b phrases speaker =
      pass b speaker (fun p phrases => withPitches phrases p.pitches) phrases := by
  unfold replacePitches pass Voices.predictPitches
  simp only [perform_bind, perform_liftM]

section

variable {place place' : Prediction → List AccentPhrase → Except Fault (List AccentPhrase)}

theorem outcome_pass_of_error {fault : Fault}
    (load : outcome (requireLoaded b speaker) e = (.error fault, e')) :
    outcome (pass b speaker place phrases) e = (.error fault, e') := by
  rw [pass, outcome_bind, load]

/-- Behind a load a pass is one prediction, which is placed without further calls. -/
theorem outcome_pass_of_ok (load : outcome (requireLoaded b speaker) e = (.ok v, e')) :
    outcome (pass b speaker place phrases) e =
      ((outcome (v.predict b phrases speaker) e'.history).1 >>= fun p => place p phrases,
        { e' with history := (outcome (v.predict b phrases speaker) e'.history).2 }) := by
  rw [pass, outcome_bind, load]
  simp only []
  rw [outcome_bind, outcome_perform]
  cases outcome (v.predict b phrases speaker) e'.history with
  | mk answer history => cases answer <;> rfl

/-- For phrases with bare pauses a pass only ever places predictions that fit. -/
theorem outcome_pass_congr (bare : ∀ p ∈ phrases, p.HasBarePause)
    (agree : ∀ p, p.Fits phrases → place p phrases = place' p phrases) (e : Engine S) :
    outcome (pass b speaker place phrases) e = outcome (pass b speaker place' phrases) e := by
  cases load : outcome (requireLoaded b speaker) e with
  | mk answer e' =>
    cases answer with
    | error fault => rw [outcome_pass_of_error b load, outcome_pass_of_error b load]
    | ok v =>
      rw [outcome_pass_of_ok b load, outcome_pass_of_ok b load]
      cases run : outcome (v.predict b phrases speaker) e'.history with
      | mk answer history =>
        cases answer with
        | error fault => rfl
        | ok p =>
          obtain ⟨pitches, durations⟩ := (v.yields_predict b speaker bare).value run
          simp only [except_ok_bind, agree p ⟨pitches, durations⟩]

/-- Once the models of a speaker are loaded, the variance session answers by its inputs. -/
def SteadyVariance (b : Backend S) (e : Engine S) (speaker : Int64) : Prop :=
  ∀ v e' sessions, outcome (requireLoaded b speaker) e = (.ok v, e') →
    v.catalogue.sessions speaker = .ok sessions → b.SteadySession sessions.variance

/-- Two passes, the second on what the first has made, are one pass that places one prediction
twice. -/
theorem answer_pass_pass (started : e.voices = some v) (steady : SteadyVariance b e speaker)
    (keeps : ∀ p placed, place p phrases = .ok placed → SameSymbols placed phrases) :
    (outcome (pass b speaker place phrases >>= pass b speaker place') e).1 =
      (outcome (pass b speaker (fun p phrases => place p phrases >>= place' p) phrases) e).1 := by
  rw [outcome_bind]
  cases load : outcome (requireLoaded b speaker) e with
  | mk answer e' =>
    cases answer with
    | error fault => rw [outcome_pass_of_error b load, outcome_pass_of_error b load]
    | ok v' =>
      obtain ⟨l, loaded, sessions, events, -, -, -, ready, rfl⟩ :=
        outcome_requireLoaded_of_ok b started load
      have variance := steady v' _ sessions load ready.sessions
      rw [outcome_pass_of_ok b load, outcome_pass_of_ok b load]
      cases run : outcome (v'.predict b phrases speaker) (e.history ++ events) with
      | mk answer history =>
        cases answer with
        | error fault => rfl
        | ok p =>
          simp only [except_ok_bind]
          cases first : place p phrases with
          | error fault => rfl
          | ok placed =>
            -- The second pass predicts from the same symbols, so it is answered alike.
            have reload : outcome (requireLoaded b speaker)
                { voices := some v', history } = (.ok v', { voices := some v', history }) :=
              outcome_requireLoaded_of_ready b rfl ready
            have again : (outcome (v'.predict b placed speaker) history).1 = .ok p := by
              rw [Voices.predict_congr b (keeps p placed first)]
              have same := Voices.steady_predict b ready.sessions variance phrases history
                (e.history ++ events)
              rw [same, run]
            simp only [except_ok_bind]
            rw [outcome_pass_of_ok b reload, again]
            rfl

/-! ## Tensors of passes -/

theorem appends_requireLoaded {kind : Event S → Prop}
    (load : ∀ library stage model options answer, kind (.load library stage model options answer))
    (decoder : ∀ session inputs answer, kind (.run .decoder session inputs answer))
    (started : e.voices = some v) :
    Appends kind e.history (outcome (requireLoaded b speaker) e).2.history := by
  have grown := v.catalogue.moves_load b load decoder speaker e.history
  rw [outcome_requireLoaded_of_started b started]
  cases run : outcome (v.catalogue.load b speaker) e.history with
  | mk answer history =>
    rw [run] at grown
    cases answer <;> exact grown

theorem appends_pass (started : e.voices = some v) :
    Appends (Event.SubmitsVariance (v.submission phrases speaker)) e.history
      (outcome (pass b speaker place phrases) e).2.history := by
  have loading : Appends (Event.SubmitsVariance (v.submission phrases speaker)) e.history
      (outcome (requireLoaded b speaker) e).2.history :=
    appends_requireLoaded b (fun _ _ _ _ _ => trivial) (fun _ _ _ => trivial) started
  cases load : outcome (requireLoaded b speaker) e with
  | mk answer e' =>
    rw [load] at loading
    cases answer with
    | error fault =>
      rw [outcome_pass_of_error b load]
      exact loading
    | ok v' =>
      obtain ⟨_, _, _, _, -, -, rfl, -, rfl⟩ := outcome_requireLoaded_of_ok b started load
      rw [outcome_pass_of_ok b load]
      refine IsTrans.trans _ _ _ loading ?_
      apply Voices.moves_predict b
      intro sessions inputs answer _ submitted
      exact submitted

/-- After a pass the engine has the same symbols, and so have the phrases. -/
theorem started_of_pass {placed : List AccentPhrase} (started : e.voices = some v)
    (keeps : ∀ p placed, place p phrases = .ok placed → SameSymbols placed phrases)
    (h : outcome (pass b speaker place phrases) e = (.ok placed, e')) :
    ∃ v', e'.voices = some v' ∧ v'.symbols = v.symbols ∧ SameSymbols placed phrases := by
  cases load : outcome (requireLoaded b speaker) e with
  | mk answer e₁ =>
    cases answer with
    | error fault =>
      rw [outcome_pass_of_error b load] at h
      cases h
    | ok v' =>
      obtain ⟨_, _, _, _, -, -, rfl, -, rfl⟩ := outcome_requireLoaded_of_ok b started load
      rw [outcome_pass_of_ok b load, Prod.mk.injEq] at h
      obtain ⟨answer, rfl⟩ := h
      obtain ⟨p, -, isPlaced⟩ := except_bind_eq_ok_iff.1 answer
      exact ⟨_, rfl, rfl, keeps p placed isPlaced⟩

theorem appends_pass_pass (started : e.voices = some v)
    (keeps : ∀ p placed, place p phrases = .ok placed → SameSymbols placed phrases) :
    Appends (Event.SubmitsVariance (v.submission phrases speaker)) e.history
      (outcome (pass b speaker place phrases >>= pass b speaker place') e).2.history := by
  have one : Appends (Event.SubmitsVariance (v.submission phrases speaker)) e.history
      (outcome (pass b speaker place phrases) e).2.history := appends_pass b started
  rw [outcome_bind]
  cases first : outcome (pass b speaker place phrases) e with
  | mk answer e' =>
    rw [first] at one
    cases answer with
    | error fault => exact one
    | ok placed =>
      obtain ⟨v', started', symbols, same⟩ := started_of_pass b started keeps first
      have two : Appends (Event.SubmitsVariance (v'.submission placed speaker)) e'.history
          (outcome (pass b speaker place' placed) e').2.history := appends_pass b started'
      rw [Voices.submission_congr symbols same] at two
      exact IsTrans.trans _ _ _ one two

end

/-! ## One pass or two -/

/-- Lengths first, then pitches. -/
def lengthsThenPitches (phrases : List AccentPhrase) (speaker : Int64) :
    Op S (List AccentPhrase) := do
  let timed ← replaceLengths b phrases speaker
  replacePitches b timed speaker

/-- Pitches first, then lengths. -/
def pitchesThenLengths (phrases : List AccentPhrase) (speaker : Int64) :
    Op S (List AccentPhrase) := do
  let tuned ← replacePitches b phrases speaker
  replaceLengths b tuned speaker

/-- Both at once, and once more. -/
def prosodyTwice (phrases : List AccentPhrase) (speaker : Int64) : Op S (List AccentPhrase) := do
  let placed ← replaceProsody b phrases speaker
  replaceProsody b placed speaker

/-- For these phrases it makes no difference how they get their prosody. -/
structure PassesAgree (b : Backend S) (e : Engine S) (v : Voices S) (phrases : List AccentPhrase)
    (speaker : Int64) : Prop where
  lengthsFirst : (outcome (lengthsThenPitches b phrases speaker) e).1 =
    (outcome (replaceProsody b phrases speaker) e).1
  pitchesFirst : (outcome (pitchesThenLengths b phrases speaker) e).1 =
    (outcome (replaceProsody b phrases speaker) e).1
  /-- Phrases that have got their prosody keep it when they get it again. -/
  again : ∀ placed e', outcome (replaceProsody b phrases speaker) e = (.ok placed, e') →
    (outcome (replaceProsody b placed speaker) e').1 = .ok placed
  /-- Every variance run is given the tensors that the phrases make. -/
  submitted : ∀ op ∈ [replaceProsody b phrases speaker, lengthsThenPitches b phrases speaker,
      pitchesThenLengths b phrases speaker, prosodyTwice b phrases speaker],
    Appends (Event.SubmitsVariance (v.submission phrases speaker)) e.history
      (outcome op e).2.history
  /-- These tensors do not depend on lengths and pitches. -/
  unread : ∀ others, SameSymbols others phrases →
    v.submission others speaker = v.submission phrases speaker

theorem lengthsThenPitches_eq_pass :
    lengthsThenPitches b phrases speaker =
      pass b speaker (fun p phrases => withLengths phrases p.durations) phrases >>=
        pass b speaker fun p phrases => withPitches phrases p.pitches := by
  unfold lengthsThenPitches
  simp only [replaceLengths_eq_pass, replacePitches_eq_pass]

theorem pitchesThenLengths_eq_pass :
    pitchesThenLengths b phrases speaker =
      pass b speaker (fun p phrases => withPitches phrases p.pitches) phrases >>=
        pass b speaker fun p phrases => withLengths phrases p.durations := by
  unfold pitchesThenLengths
  simp only [replaceLengths_eq_pass, replacePitches_eq_pass]

theorem prosodyTwice_eq_pass :
    prosodyTwice b phrases speaker =
      pass b speaker withPrediction phrases >>= pass b speaker withPrediction := by
  unfold prosodyTwice
  simp only [replaceProsody_eq_pass]

theorem answer_lengthsThenPitches (started : e.voices = some v)
    (steady : SteadyVariance b e speaker) :
    (outcome (lengthsThenPitches b phrases speaker) e).1 =
      (outcome (replaceProsody b phrases speaker) e).1 := by
  rw [lengthsThenPitches_eq_pass, replaceProsody_eq_pass]
  apply answer_pass_pass b started steady
  intro p placed
  exact sameSymbols_of_withLengths

theorem answer_pitchesThenLengths (started : e.voices = some v)
    (bare : ∀ p ∈ phrases, p.HasBarePause) (steady : SteadyVariance b e speaker) :
    (outcome (pitchesThenLengths b phrases speaker) e).1 =
      (outcome (replaceProsody b phrases speaker) e).1 := by
  rw [pitchesThenLengths_eq_pass, replaceProsody_eq_pass]
  rw [answer_pass_pass b started steady fun p placed => sameSymbols_of_withPitches]
  rw [outcome_pass_congr b bare]
  intro p fits
  exact fits.withLengths_withPitches

theorem answer_prosodyTwice (started : e.voices = some v)
    (bare : ∀ p ∈ phrases, p.HasBarePause) (steady : SteadyVariance b e speaker) :
    (outcome (prosodyTwice b phrases speaker) e).1 =
      (outcome (replaceProsody b phrases speaker) e).1 := by
  rw [prosodyTwice_eq_pass, replaceProsody_eq_pass]
  rw [answer_pass_pass b started steady fun p placed => sameSymbols_of_withPrediction]
  rw [outcome_pass_congr b bare]
  intro p fits
  rw [fits.withPrediction, except_ok_bind]
  exact fits.withPrediction_again fits.withPrediction

/-- If the variance session answers by its inputs, it makes no difference whether phrases get their
lengths and their pitches in one pass or in two, nor whether they get them again. -/
theorem passesAgree_of_steady (started : e.voices = some v)
    (bare : ∀ p ∈ phrases, p.HasBarePause) (steady : SteadyVariance b e speaker) :
    PassesAgree b e v phrases speaker where
  lengthsFirst := answer_lengthsThenPitches b started steady
  pitchesFirst := answer_pitchesThenLengths b started bare steady
  again := by
    intro placed e' once
    have twice := answer_prosodyTwice b started bare steady
    rwa [prosodyTwice, outcome_bind, once] at twice
  submitted := by
    intro op mem
    simp only [List.mem_cons, List.not_mem_nil, or_false] at mem
    rcases mem with rfl | rfl | rfl | rfl
    · rw [replaceProsody_eq_pass]
      exact appends_pass b started
    · rw [lengthsThenPitches_eq_pass]
      exact appends_pass_pass b started fun p placed => sameSymbols_of_withLengths
    · rw [pitchesThenLengths_eq_pass]
      exact appends_pass_pass b started fun p placed => sameSymbols_of_withPitches
    · rw [prosodyTwice_eq_pass]
      exact appends_pass_pass b started fun p placed => sameSymbols_of_withPrediction
  unread := by
    intro others same
    exact Voices.submission_congr rfl same speaker

/-- A question of two phonemes. -/
def questionPhrases : List AccentPhrase :=
  [{ moras := [.plain "カ" (some "k") "a"], accent := 1, isQuestion := true }]

theorem outcome_replaceProsody_question : ∃ placed e',
    outcome (replaceProsody questionBackend questionPhrases 7) questionEngine = (.ok placed, e') ∧
      placed ≠ questionPhrases :=
  exists_answer (by decide +kernel)

theorem passesAgree_question :
    questionEngine.voices = some questionVoices ∧ (∀ p ∈ questionPhrases, p.HasBarePause) ∧
      SteadyVariance questionBackend questionEngine 7 ∧
      (∃ placed e',
        outcome (replaceProsody questionBackend questionPhrases 7) questionEngine =
          (.ok placed, e') ∧ placed ≠ questionPhrases) ∧
      PassesAgree questionBackend questionEngine questionVoices questionPhrases 7 := by
  have bare : ∀ p ∈ questionPhrases, p.HasBarePause := by
    simp [questionPhrases, AccentPhrase.HasBarePause]
  have steady : SteadyVariance questionBackend questionEngine 7 := by
    intro v e' sessions _ _ inputs history history'
    rfl
  refine ⟨rfl, bare, steady, outcome_replaceProsody_question, ?_⟩
  exact passesAgree_of_steady questionBackend rfl bare steady

end Engine

end KanaVoice
