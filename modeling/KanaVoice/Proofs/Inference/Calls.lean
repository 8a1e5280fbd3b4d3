import KanaVoice.Proofs.Inference.Stages
import KanaVoice.Proofs.Transition
set_option autoImplicit false

/-!
# Calls and faults of the stages

A stage makes no calls but runs of its own session, and it fails over its own work only, whatever it
is given and whatever is answered.
-/

namespace KanaVoice

/-! ## Calls

A property of the runs of its session holds of everything that a stage adds to the history. -/

section

variable {S : Type} (b : Backend S) {kind : Event S → Prop}

theorem moves_runSession {stage : Stage} {session : S} {inputs : List NamedTensor}
    (run : ∀ answer, kind (.run stage session inputs answer)) :
    Moves (Appends kind) (b.runSession stage session inputs) := by
  intro history
  exact appends_singleton (run _) history

theorem moves_runForOutput {stage : Stage} {session : S} {inputs : List NamedTensor}
    (run : ∀ answer, kind (.run stage session inputs answer)) (name : String) :
    Moves (Appends kind) (b.runForOutput stage session inputs name) := by
  intro history
  rw [history_runForOutput]
  exact appends_singleton (run _) history

/-- The variance stage is given the tensors of its arguments and nothing else. -/
theorem moves_variance {sessions : Sessions S} {phonemes accents : List Int} {speaker : Int64}
    (run : ∀ inputs answer, varianceInputs phonemes accents speaker = .ok inputs →
      kind (.run .variance sessions.variance inputs answer)) :
    Moves (Appends kind) (b.variance sessions phonemes accents speaker) := by
  rw [variance_eq]
  split
  · exact .throw _
  · split
    · exact .pure _
    · refine .liftBind fun inputs tensors => ?_
      refine .bind (moves_runSession b fun answer => run inputs answer tensors) ?_
      intro outputs
      exact .lift _

theorem moves_embed {session : S}
    (run : ∀ inputs answer, kind (.run .embedder session inputs answer)) (phonemes : List Int)
    (pitches : List Float32) (speaker : Int64) :
    Moves (Appends kind) (b.embed session phonemes pitches speaker) := by
  refine .liftBind fun inputs _ => ?_
  refine .bind (moves_runForOutput b (run inputs) _) ?_
  intro output
  exact .lift _

theorem moves_decode {session : S}
    (run : ∀ inputs answer, kind (.run .decoder session inputs answer)) (frames : Matrix) :
    Moves (Appends kind) (b.decode session frames) := by
  rw [decode_eq]
  split
  · exact .pure _
  · refine .liftBind fun input _ => ?_
    refine .bind (moves_runForOutput b (run [input]) _) ?_
    intro output
    exact .pure _

theorem moves_decodeForward {sessions : Sessions S}
    (embedder : ∀ inputs answer, kind (.run .embedder sessions.embedder inputs answer))
    (decoder : ∀ inputs answer, kind (.run .decoder sessions.decoder inputs answer))
    (phonemes : List Int) (pitches durations : List Float32) (speaker : Int64) :
    Moves (Appends kind) (b.decodeForward sessions phonemes pitches durations speaker) := by
  rw [decodeForward_eq]
  split
  · exact .throw _
  · split
    · exact .pure _
    · refine .bind (moves_embed b embedder phonemes pitches speaker) ?_
      intro features
      refine .bind (.lift _) ?_
      intro frames
      exact moves_decode b decoder frames

theorem moves_analyzeText {analyzer : TextAnalyzer} {text : String}
    (analysis : ∀ answer, kind (.analyze text answer)) :
    Moves (Appends kind) (analyzeText analyzer text : Calls S Utterance) := by
  intro history
  exact appends_singleton (analysis _) history

end

/-! ## Faults

A fault that says that a voice is not there never comes from a stage. -/

/-- The fault of a voice that is not there: the engine has none, none belongs to the speaker, or its
models are not loaded. -/
def Fault.IsAbsence : Fault → Prop
  | .notInitialized | .unknownSpeaker _ | .modelNotLoaded _ => True
  | _ => False

theorem Fault.IsOfStages.not_isAbsence {fault : Fault} (h : fault.IsOfStages) :
    ¬ fault.IsAbsence := by
  intro absent
  unfold IsAbsence at absent
  split at absent
  case h_4 => exact absent
  all_goals exact h

variable {S : Type} (b : Backend S)

theorem yields_variance_isOfStages (sessions : Sessions S) (phonemes accents : List Int)
    (speaker : Int64) :
    Yields (b.variance sessions phonemes accents speaker) (fun _ => True) Fault.IsOfStages := by
  by_cases aligned : accents.length = phonemes.length
  · refine .ofFault fun run => ?_
    exact ((yields_variance b aligned).fault run).ofStages
  · rw [variance_eq, if_pos (Ne.symm aligned)]
    exact .throw trivial

theorem yields_decodeForward_isOfStages (sessions : Sessions S) (phonemes : List Int)
    (pitches durations : List Float32) (speaker : Int64) :
    Yields (b.decodeForward sessions phonemes pitches durations speaker) (fun _ => True)
      Fault.IsOfStages := by
  by_cases aligned : pitches.length = phonemes.length ∧ durations.length = phonemes.length
  · refine .ofFault fun run => ?_
    exact ((yields_decodeForward b aligned.1 aligned.2).fault run).ofStages
  · rw [decodeForward_eq, if_pos (by tauto)]
    exact .throw trivial

end KanaVoice
