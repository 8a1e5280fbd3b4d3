import KanaVoice.Proofs.Inference.Conduct
import KanaVoice.Proofs.Library.LoadStates
set_option autoImplicit false

/-!
# What becomes of a load

With a backend of a fixed conduct, what becomes of a load is known before any call is made: it is
the verdict on the models, the first refusal of the three stages.  A library that is loaded had a
favourable one, so the verdict stays the same when it is loaded.  Every load ends as its verdict
says, and what it leaves behind plays the models that were presented.
-/

namespace KanaVoice

variable {S : Type}

/-- The model of a stage. -/
def ModelFiles.of (models : ModelFiles) : Stage → ByteArray
  | .variance => models.variance
  | .embedder => models.embedder
  | .decoder => models.decoder

/-! ## Verdicts -/

namespace Conduct

/-- What becomes of the model of one stage; a refusal names the stage's file. -/
def stageVerdict (conduct : Conduct) (plan : LoadPlan) (folder : Path) (models : ModelFiles)
    (stage : Stage) : Except Fault Unit :=
  (conduct.takes stage (models.of stage) (plan.options stage)).mapError
    (.modelFormat (stage.path folder))

/-- What becomes of the models in a folder. -/
def verdict (conduct : Conduct) (plan : LoadPlan) (folder : Path) (models : ModelFiles) :
    Except Fault Unit := do
  conduct.stageVerdict plan folder models .variance
  conduct.stageVerdict plan folder models .embedder
  conduct.stageVerdict plan folder models .decoder
  .ok ()

theorem verdict_eq_ok {conduct : Conduct} {plan : LoadPlan} {folder : Path} {models : ModelFiles}
    (h : ∀ stage, conduct.stageVerdict plan folder models stage = .ok ()) :
    conduct.verdict plan folder models = .ok () := by
  unfold verdict
  rw [h .variance, h .embedder, h .decoder]
  rfl

theorem TakesAll.verdict {conduct : Conduct} (h : conduct.TakesAll) (plan : LoadPlan)
    (folder : Path) (models : ModelFiles) : conduct.verdict plan folder models = .ok () := by
  refine verdict_eq_ok fun stage => ?_
  rw [stageVerdict, h]
  rfl

end Conduct

/-- What becomes of loading a library. -/
def VoiceLibrary.verdict (conduct : Conduct) (plan : LoadPlan) (l : VoiceLibrary S) :
    Except Fault Unit :=
  match l.state with
  | .loaded _ => .ok ()
  | .unloaded models => conduct.verdict plan l.folder models

/-- What becomes of loading for a speaker. -/
def Catalogue.verdict (conduct : Conduct) (c : Catalogue S) (speaker : Int64) :
    Except Fault Unit := do
  let l ← c.library speaker
  l.verdict conduct c.plan

theorem Conduct.TakesAll.verdict_library {conduct : Conduct} (h : conduct.TakesAll)
    (plan : LoadPlan) (l : VoiceLibrary S) : l.verdict conduct plan = .ok () := by
  unfold VoiceLibrary.verdict
  split
  · rfl
  · exact h.verdict plan l.folder _

/-! ## Libraries that play their models -/

/-- From this history on the sessions answer as the models that they were loaded from. -/
def Sessions.Play (b : Backend S) (conduct : Conduct) (plan : LoadPlan) (history : History S)
    (models : ModelFiles) (sessions : Sessions S) : Prop :=
  ∀ stage, b.Plays conduct history (sessions.of stage) stage (models.of stage) (plan.options stage)

/-- The library has these models: it is going to load them, or its sessions play them and the
verdict on them was favourable. -/
def VoiceLibrary.Holds (b : Backend S) (conduct : Conduct) (plan : LoadPlan) (history : History S)
    (models : ModelFiles) (l : VoiceLibrary S) : Prop :=
  match l.state with
  | .unloaded own => own = models
  | .loaded sessions =>
    sessions.Play b conduct plan history models ∧ conduct.verdict plan l.folder models = .ok ()

namespace VoiceLibrary

variable {b : Backend S} {conduct : Conduct} {plan : LoadPlan} {history later : History S}
  {models : ModelFiles} {l l' : VoiceLibrary S}

theorem Holds.mono (h : l.Holds b conduct plan history models) (grown : history <+: later) :
    l.Holds b conduct plan later models := by
  unfold Holds at h ⊢
  cases state : l.state with
  | unloaded own =>
    rw [state] at h
    exact h
  | loaded sessions =>
    rw [state] at h
    exact ⟨fun stage => (h.1 stage).mono grown, h.2⟩

/-- The verdict is on the models that the library has, whether it is loaded or not. -/
theorem Holds.verdict (h : l.Holds b conduct plan history models) :
    l.verdict conduct plan = conduct.verdict plan l.folder models := by
  unfold Holds at h
  unfold VoiceLibrary.verdict
  cases state : l.state with
  | unloaded own =>
    rw [state] at h
    obtain rfl : own = models := h
    rfl
  | loaded sessions =>
    rw [state] at h
    exact h.2.symm

/-- What a load has made of a library: it is loaded, and has the models that it had. -/
structure Gains (b : Backend S) (conduct : Conduct) (plan : LoadPlan) (history later : History S)
    (l l' : VoiceLibrary S) : Prop where
  name : l'.name = l.name
  folder : l'.folder = l.folder
  speakers : l'.speakers = l.speakers
  loaded : l'.isLoaded = true
  holds : ∀ models, l.Holds b conduct plan history models → l'.Holds b conduct plan later models

theorem Gains.mono {history' later' : History S} (h : l.Gains b conduct plan history later l')
    (before : history' <+: history) (after : later <+: later') :
    l.Gains b conduct plan history' later' l' where
  name := h.name
  folder := h.folder
  speakers := h.speakers
  loaded := h.loaded
  holds models holds := (h.holds models (holds.mono before)).mono after

end VoiceLibrary

/-! ## Loads -/

section

variable {b : Backend S} {conduct : Conduct} (follows : b.Follows conduct)
  {base history : History S} (grown : base <+: history)

include follows grown

theorem coupled_loadStage (plan : LoadPlan) (l : VoiceLibrary S) (models : ModelFiles)
    (stage : Stage) :
    Coupled (fun later (_ : Unit) => base <+: later)
      (fun session _ later _ => history <+: later ∧
        b.Plays conduct later session stage (models.of stage) (plan.options stage) ∧
        conduct.stageVerdict plan l.folder models stage = .ok ())
      (l.loadStage b plan stage (models.of stage))
      (liftM (conduct.stageVerdict plan l.folder models stage)) history () := by
  have taken := follows.takes history stage (models.of stage) (plan.options stage)
  unfold Coupled Conduct.stageVerdict
  rw [← taken, outcome_liftM]
  show EndAlike _ _ ((b.load history stage _ _).mapError _, history ++ [_]) _
  cases loaded : b.load history stage (models.of stage) (plan.options stage) with
  | error reason => exact .error (grown.trans (List.prefix_append _ _))
  | ok session =>
    exact .ok ⟨List.prefix_append _ _, follows.plays history l.name _ _ _ _ loaded, rfl⟩

/-- Loading a library ends as the verdict on it says. -/
theorem VoiceLibrary.coupled_load (plan : LoadPlan) (l : VoiceLibrary S) :
    Coupled (fun later (_ : Unit) => base <+: later)
      (fun l' _ later _ => history <+: later ∧ l.Gains b conduct plan history later l')
      (l.load b plan) (liftM (l.verdict conduct plan)) history () := by
  unfold VoiceLibrary.load VoiceLibrary.verdict
  cases state : l.state with
  | loaded sessions =>
    have loaded := VoiceLibrary.isLoaded_eq_true_iff.2 ⟨sessions, state⟩
    exact .pure ⟨List.prefix_refl _, rfl, rfl, rfl, loaded, fun _ => id⟩
  | unloaded models =>
    simp only [Conduct.verdict, liftM_bind]
    refine .bind (coupled_loadStage follows grown plan l models .variance) ?_
    rintro variance _ first _ ⟨later₁, plays₁, taken₁⟩
    refine .bind (coupled_loadStage follows (grown.trans later₁) plan l models .embedder) ?_
    rintro embedder _ second _ ⟨later₂, plays₂, taken₂⟩
    have grown₂ := later₁.trans later₂
    refine .bind (coupled_loadStage follows (grown.trans grown₂) plan l models .decoder) ?_
    rintro decoder _ third _ ⟨later₃, plays₃, taken₃⟩
    obtain ⟨warmUp, -, ran⟩ := outcome_warmUp b plan decoder third
    unfold Coupled
    rw [outcome_bind, ran]
    have later₄ : third <+: third ++ warmUp := List.prefix_append _ _
    refine .ok ⟨(grown₂.trans later₃).trans later₄, rfl, rfl, rfl, rfl, ?_⟩
    intro own holds
    unfold Holds at holds
    rw [state] at holds
    obtain rfl : models = own := holds
    refine ⟨?_, Conduct.verdict_eq_ok ?_⟩
    · rintro (_ | _ | _)
      · exact plays₁.mono (later₂.trans (later₃.trans later₄))
      · exact plays₂.mono (later₃.trans later₄)
      · exact plays₃.mono later₄
    · rintro (_ | _ | _)
      · exact taken₁
      · exact taken₂
      · exact taken₃

/-- Loading for a speaker ends as the verdict on the speaker's library says. -/
theorem Catalogue.coupled_load (c : Catalogue S) (speaker : Int64) :
    Coupled (fun later (_ : Unit) => base <+: later)
      (fun c' _ later _ => history <+: later ∧ ∃ l l', c.library? speaker = some l ∧
        l.Gains b conduct c.plan history later l' ∧ c' = c.replace l')
      (c.load b speaker) (liftM (c.verdict conduct speaker)) history () := by
  unfold Catalogue.load Catalogue.verdict
  rw [liftM_bind]
  unfold Catalogue.library
  cases found : c.library? speaker with
  | none => exact .throw _ grown
  | some l =>
    refine (l.coupled_load follows grown c.plan).mapLeft ?_
    rintro l' _ later _ ⟨later₁, gains⟩
    exact ⟨later₁, l, l', rfl, gains, rfl⟩

/-- Loading libraries one after another ends as the verdicts on them say. -/
theorem coupled_mapM_load (plan : LoadPlan) (libraries : List (VoiceLibrary S)) :
    Coupled (fun later (_ : Unit) => base <+: later)
      (fun loaded _ later _ => history <+: later ∧
        List.Forall₂ (VoiceLibrary.Gains b conduct plan history later) libraries loaded)
      (libraries.mapM (VoiceLibrary.load b plan))
      (liftM (libraries.mapM (VoiceLibrary.verdict conduct plan))) history () := by
  induction libraries generalizing history with
  | nil => exact .pure ⟨List.prefix_refl _, .nil⟩
  | cons l rest ih =>
    rw [List.mapM_cons, List.mapM_cons, liftM_bind]
    refine .bind (l.coupled_load follows grown plan) ?_
    rintro l' _ first _ ⟨later₁, gains⟩
    rw [liftM_bind]
    refine .bind (ih (grown.trans later₁)) ?_
    rintro loaded _ second _ ⟨later₂, each⟩
    refine .pure ⟨later₁.trans later₂, .cons (gains.mono (List.prefix_refl _) later₂) ?_⟩
    exact each.imp fun _ _ h => h.mono later₁ (List.prefix_refl _)

end

end KanaVoice
