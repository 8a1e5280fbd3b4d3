import KanaVoice.Proofs.Engine.Unnoticed
set_option autoImplicit false

/-!
# Sound in memory and in a file

Kana notation can be made into a sound or recorded to a file.  The one goes by the query of the
phrases, with its volume, rate and channels, the other by the samples alone; for a query in its
usual shape this comes to the same bytes.  So a file that can be created gets what the sound would
be, from any engine of the same start, and there is no file for the reason that there would be no
sound.
-/

namespace KanaVoice

/-! ## Files that have been written

Whether a file can be written to a path depends on the path and on the tree, and not on the bytes.
Once it has been written, the way to it is still the same, and the bytes are read back. -/

namespace FileTree

variable {t t' : FileTree} {p : Path}

/-- A file can be created at the path, or an older one replaced. -/
def Creatable (t : FileTree) (p : Path) : Prop := ∃ t', t.write p .empty = .ok t'

theorem write_eq_ok_iff {bytes : ByteArray} :
    t.write p bytes = .ok t' ↔ p.endsInSlash = false ∧ ∃ location, t.locate p = .ok location ∧
      t.at? location ≠ some .folder ∧ t' = t.put location (.file bytes) := by
  unfold write
  cases p.endsInSlash with
  | true =>
    constructor
    · intro h
      obtain ⟨_, -, ⟨⟩⟩ := except_bind_eq_ok_iff.1 h
    · rintro ⟨⟨⟩, -⟩
  | false =>
    simp only [Bool.false_eq_true, if_false, true_and]
    rw [except_bind_eq_ok_iff]
    refine exists_congr fun location => and_congr_right fun _ => ?_
    split
    case h_1 folder => simp [folder]
    case h_2 other =>
      rw [Except.ok.injEq, eq_comm]
      exact (and_iff_right other).symm

theorem exists_write_of_creatable (h : t.Creatable p) (bytes : ByteArray) :
    ∃ t', t.write p bytes = .ok t' := by
  obtain ⟨_, written⟩ := h
  obtain ⟨noSlash, location, found, notFolder, -⟩ := write_eq_ok_iff.1 written
  exact ⟨_, write_eq_ok_iff.2 ⟨noSlash, location, found, notFolder, rfl⟩⟩

theorem at?_put_of_ne {location here : Location} (ne : here ≠ location) (e : Entry) :
    (t.put location e).at? here = t.at? here := by
  simp only [at?, put, if_neg ne]

theorem at?_put_self {location : Location} (notTop : location ≠ []) (e : Entry) :
    (t.put location e).at? location = some e := by
  simp only [at?, put, if_neg notTop, if_true]

/-- An entry put where there is no folder is not on the way to its own location. -/
theorem follow_put {location : Location} (notFolder : t.at? location ≠ some .folder) (e : Entry)
    {here : Location} {names : List String} (h : t.follow here names = .ok location) :
    (t.put location e).follow here names = .ok location := by
  induction names generalizing here with
  | nil => exact h
  | cons name rest ih =>
    unfold follow at h ⊢
    cases entry : t.at? here with
    | none => simp [entry] at h
    | some found =>
      cases found with
      | file bytes => simp [entry] at h
      | folder =>
        have ne : here ≠ location := by
          rintro rfl
          exact notFolder entry
        rw [at?_put_of_ne ne, entry]
        rw [entry] at h
        simp only at h ⊢
        split_ifs at h ⊢
        · exact ih h
        · exact ih h
        · exact ih h

/-- What was written is read back. -/
theorem read_of_write {bytes : ByteArray} (h : t.write p bytes = .ok t') :
    t'.read p = .ok bytes := by
  obtain ⟨noSlash, location, found, notFolder, rfl⟩ := write_eq_ok_iff.1 h
  have notTop : location ≠ [] := by
    rintro rfl
    exact notFolder rfl
  have located : (t.put location (.file bytes)).locate p = .ok location := by
    unfold locate walk at found ⊢
    split_ifs at found ⊢
    exact follow_put notFolder _ found
  unfold read lookup
  rw [located, except_ok_bind, at?_put_self notTop]
  simp only [noSlash, Bool.false_eq_true, if_false, except_ok_bind]

end FileTree

/-! ## Recorded sound -/

variable {S : Type}

theorem repeatCount_native : repeatCount 48000 false = 1 := by decide

/-- At the native rate, in one channel and at full volume, a wave is written sample by sample. -/
theorem ofWave_native (samples : List Float32) :
    Wav.ofWave samples 1 48000 false =
      Recording.wav { samples, rate := .ofNat nativeRate } := by
  unfold Wav.ofWave Recording.wav pcmSamples
  rw [repeatCount_native]
  congr 1
  exact List.map_eq_flatMap.symm

namespace Engine

variable (b : Backend S) {e : Engine S}

/-- With voices, the sound of kana notation is that of its recording. -/
theorem kanaToWav_eq (kana : String) (speaker : Int64) :
    kanaToWav b kana speaker = (do
      let _ ← requireVoices
      let recording ← record b kana { speaker, upspeak := true }
      pure recording.wav) := by
  unfold kanaToWav record synthesizeWav
  simp only [bind_assoc, pure_bind, ← ofWave_native]
  rfl

/-- What is written to a file is the sound, and what keeps the file from being written keeps the
sound from being made. -/
inductive Delivers (path : Path) : Except Fault Wav → Except RecordFault FileTree → Prop
  | written {sound : Wav} {files : FileTree} : files.read path = .ok ⟨sound.bytes.toArray⟩ →
    Delivers path (.ok sound) (.ok files)
  | failed (fault : Fault) : Delivers path (.error fault) (.error (.speech fault))

theorem delivers_of_record {files : FileTree} {path : Path} (creatable : files.Creatable path)
    {e' : Engine S} {v : Voices S} {kana : String} {speaker : Int64} (started : e.voices = some v)
    (same : (outcome (record b kana { speaker, upspeak := true }) e').1 =
      (outcome (record b kana { speaker, upspeak := true }) e).1) :
    Delivers path (outcome (kanaToWav b kana speaker) e).1
      (recordToFile b files path kana { speaker, upspeak := true } e').1 := by
  rw [kanaToWav_eq, outcome_bind, outcome_requireVoices_of_started started]
  simp only []
  rw [outcome_bind]
  unfold recordToFile
  unfold outcome at same ⊢
  cases left : record b kana { speaker, upspeak := true } e with
  | mk answer later =>
    cases right : record b kana { speaker, upspeak := true } e' with
    | mk answer' later' =>
      rw [left, right] at same
      obtain rfl : answer' = answer := same
      cases answer' with
      | error fault => exact .failed fault
      | ok recording =>
        obtain ⟨written, run⟩ := FileTree.exists_write_of_creatable creatable
          ⟨recording.wav.bytes.toArray⟩
        have run' : recording.write files path = .ok written := run
        simp only [run']
        exact .written (FileTree.read_of_write run)

/-- Whatever is requested of an engine between its start and either call, recording kana notation to
a file that can be created writes the bytes of its sound, and fails as the sound fails. -/
theorem delivers_of_start {conduct : Conduct} (follows : b.Follows conduct) {tree : FileTree}
    {root : Path} {options : CatalogueOptions} {e₀ e₁ : Engine S}
    (opened : outcome (start b tree root options) e₀ = (.ok (), e₁)) (first second : List Request)
    {files : FileTree} {path : Path} (creatable : files.Creatable path) (kana : String)
    (speaker : Int64) :
    Delivers path (outcome (kanaToWav b kana speaker) (serve b first e₁)).1
      (recordToFile b files path kana { speaker, upspeak := true } (serve b second e₁)).1 := by
  have started := (agree_start follows tree root options e₀ e₀).state
  rw [opened] at started
  have alike := started.loosen.serve follows first second
  obtain ⟨v₁, opening, started₁, -, recorded, -⟩ := recorded_of_start b opened
  obtain ⟨v, -, voices, -⟩ := recorded_of_serve b started₁ recorded first
  exact delivers_of_record b creatable voices (agree_record follows alike kana _).answer

theorem delivers_of_start_question :
    questionBackend.Follows questionConduct ∧ FileTree.empty.Creatable ⟨"sound.wav"⟩ ∧ ∃ e₁,
      outcome (start questionBackend questionTree ⟨"voices"⟩ {}) {} = (.ok (), e₁) ∧
      Delivers ⟨"sound.wav"⟩ (outcome (kanaToWav questionBackend "カ'？" 7) e₁).1
        (recordToFile questionBackend .empty ⟨"sound.wav"⟩ "カ'？" { speaker := 7, upspeak := true }
          (serve questionBackend [.load 7] e₁)).1 := by
  have creatable : FileTree.empty.Creatable ⟨"sound.wav"⟩ := ⟨_, rfl⟩
  obtain ⟨e₁, opened, -⟩ := outcome_start_question
  refine ⟨follows_question, creatable, e₁, opened, ?_⟩
  exact delivers_of_start questionBackend follows_question opened [] [.load 7] creatable "カ'？" 7

end Engine

end KanaVoice
