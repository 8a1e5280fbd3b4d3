import KanaVoice.Proofs.Json.Record
import KanaVoice.Proofs.Speech.WithoutProsody
import KanaVoice.Query.Json
set_option autoImplicit false

/-!
# Queries, written and read

A query is read from its JSON text as it was, whatever phrases, texts and numbers it holds, as long
as its numbers are finite.  A number that is not finite is written as null: where a number must
stand the query cannot be read then, and a length for a consonant is lost.
-/

namespace KanaVoice

/-! ## Numbers of a query -/

namespace Mora

/-- The numbers that a mora must have. -/
def requiredSingles (m : Mora) : List Float32 := [m.vowelLength, m.pitch]

/-- All numbers of a mora. -/
def singles (m : Mora) : List Float32 := m.consonantLength.toList ++ m.requiredSingles

/-- The mora without a length for a consonant that is not finite. -/
def withFiniteLength (m : Mora) : Mora :=
  { m with consonantLength := m.consonantLength.filter Float32.isFinite }

end Mora

namespace AccentPhrase

/-- The numbers that the morae and the pause of a phrase must have. -/
def requiredSingles (p : AccentPhrase) : List Float32 := p.flatten.flatMap Mora.requiredSingles

/-- All numbers of a phrase. -/
def singles (p : AccentPhrase) : List Float32 := p.flatten.flatMap Mora.singles

/-- The phrase without lengths for consonants that are not finite. -/
def withFiniteLengths (p : AccentPhrase) : AccentPhrase := p.mapMoras Mora.withFiniteLength

end AccentPhrase

namespace AudioQuery

/-- The numbers that a query has beside those of its phrases. -/
def ownSingles (q : AudioQuery) : List Float32 :=
  [q.speedScale, q.pitchScale, q.intonationScale, q.volumeScale, q.preSilence, q.postSilence]

/-- The numbers that a query must have, at any depth. -/
def requiredSingles (q : AudioQuery) : List Float32 :=
  q.phrases.flatMap AccentPhrase.requiredSingles ++ q.ownSingles

/-- All numbers of a query. -/
def singles (q : AudioQuery) : List Float32 :=
  q.phrases.flatMap AccentPhrase.singles ++ q.ownSingles

/-- The query without lengths for consonants that are not finite. -/
def withFiniteLengths (q : AudioQuery) : AudioQuery :=
  { q with phrases := q.phrases.map AccentPhrase.withFiniteLengths }

end AudioQuery

/-! ## Morae -/

namespace Mora

variable {m : Mora} (reads : ∀ x ∈ m.singles, Single.ReadsBack x)

include reads

theorem readsBack_consonantLength : ∀ x ∈ m.consonantLength, Single.ReadsBack x :=
  fun x mem => reads x (List.mem_append_left _ (Option.mem_toList.2 mem))

theorem readsBack_required : Single.ReadsBack m.vowelLength ∧ Single.ReadsBack m.pitch :=
  ⟨reads _ (by simp [singles, requiredSingles]), reads _ (by simp [singles, requiredSingles])⟩

theorem isPlain_toJson : m.toJson.IsPlain := by
  have consonantLength : (Json.ofOption .ofSingle m.consonantLength).IsPlain :=
    Json.isPlain_ofOption fun x mem => Json.isPlain_ofSingle (readsBack_consonantLength reads x mem)
  obtain ⟨vowelLength, pitch⟩ := readsBack_required reads
  refine .object ?_
  simp only [List.forall_mem_cons]
  exact ⟨.string _, Json.isPlain_ofOption fun s _ => .string s, consonantLength, .string _,
    Json.isPlain_ofSingle vowelLength, Json.isPlain_ofSingle pitch, nofun⟩

theorem ofJson?_toJson :
    ofJson? m.toJson =
      if m.requiredSingles.all Float32.isFinite then some m.withFiniteLength else none := by
  have fields : Json.fields? fieldNames m.toJson = some ⟨false, _⟩ :=
    Json.fields?_object rfl (by decide)
  obtain ⟨vowelLength, pitch⟩ := readsBack_required reads
  unfold ofJson?
  rw [fields]
  show (do
    let consonant ← Json.nullable? Json.text? (.ofOption .string m.consonant)
    let consonantLength ← Json.nullable? Json.single? (.ofOption .ofSingle m.consonantLength)
    let vowelLength ← Json.single? (.ofSingle m.vowelLength)
    let pitch ← Json.single? (.ofSingle m.pitch)
    some (Mora.mk m.text consonant consonantLength m.vowel vowelLength pitch)) = _
  rw [Json.nullable?_ofOption_string,
    Json.nullable?_ofOption_ofSingle (readsBack_consonantLength reads),
    Json.single?_ofSingle vowelLength, Json.single?_ofSingle pitch]
  simp only [requiredSingles, List.all_cons, List.all_nil, Bool.and_true, Bool.and_eq_true, ite_and,
    Json.ite_some_bind]
  rfl

end Mora

/-! ## Phrases -/

namespace AccentPhrase

variable {p : AccentPhrase} (reads : ∀ x ∈ p.singles, Single.ReadsBack x)

theorem all_requiredSingles (p : AccentPhrase) :
    p.requiredSingles.all Float32.isFinite =
      (p.moras.all (·.requiredSingles.all Float32.isFinite) &&
        p.pause.all (·.requiredSingles.all Float32.isFinite)) := by
  unfold requiredSingles flatten
  rw [List.all_flatMap, List.all_append]
  cases p.pause <;> simp

include reads

theorem readsBack_flatten : ∀ m ∈ p.flatten, ∀ x ∈ m.singles, Single.ReadsBack x :=
  fun m mem x inside => reads x (List.mem_flatMap.2 ⟨m, mem, inside⟩)

theorem readsBack_moras : ∀ m ∈ p.moras, ∀ x ∈ m.singles, Single.ReadsBack x :=
  fun m mem => readsBack_flatten reads m (List.mem_append_left _ mem)

theorem readsBack_pause : ∀ m ∈ p.pause, ∀ x ∈ m.singles, Single.ReadsBack x :=
  fun m mem => readsBack_flatten reads m (List.mem_append_right _ (Option.mem_toList.2 mem))

theorem isPlain_toJson : p.toJson.IsPlain := by
  have moras : (Json.array (p.moras.map Mora.toJson)).IsPlain :=
    Json.isPlain_array fun m mem => Mora.isPlain_toJson (readsBack_moras reads m mem)
  have pause : (Json.ofOption Mora.toJson p.pause).IsPlain :=
    Json.isPlain_ofOption fun m mem => Mora.isPlain_toJson (readsBack_pause reads m mem)
  refine .object ?_
  simp only [List.forall_mem_cons]
  exact ⟨moras, Json.isPlain_ofNat _, pause, .bool _, nofun⟩

theorem nullable?_pause :
    Json.nullable? Mora.ofJson? (.ofOption Mora.toJson p.pause) =
      if p.pause.all (·.requiredSingles.all Float32.isFinite) then
        some (p.pause.map Mora.withFiniteLength)
      else none := by
  cases found : p.pause with
  | none => rfl
  | some m =>
    show (Mora.ofJson? m.toJson).map some = _
    rw [Mora.ofJson?_toJson (readsBack_pause reads m found), Option.all_some]
    cases m.requiredSingles.all Float32.isFinite <;> rfl

theorem ofJson?_toJson (accent : p.accent < accentBound) :
    ofJson? p.toJson =
      if p.requiredSingles.all Float32.isFinite then some p.withFiniteLengths else none := by
  have fields : Json.fields? fieldNames p.toJson = some ⟨false, _⟩ :=
    Json.fields?_object rfl (by decide)
  have moras : Json.list? Mora.ofJson? (.array (p.moras.map Mora.toJson)) = _ :=
    Json.list?_array fun m mem => Mora.ofJson?_toJson (readsBack_moras reads m mem)
  unfold ofJson?
  rw [fields]
  show (do
    let moras ← Json.list? Mora.ofJson? (.array (p.moras.map Mora.toJson))
    let accent ← Json.nat? accentBound (.ofNat p.accent)
    let pause ← Json.nullable? Mora.ofJson? (.ofOption Mora.toJson p.pause)
    some (AccentPhrase.mk moras accent pause p.isQuestion)) = _
  rw [moras, Json.nat?_ofNat accent (Nat.le_refl _), nullable?_pause reads, all_requiredSingles]
  simp only [Bool.and_eq_true, ite_and, Json.ite_some_bind]
  rfl

end AccentPhrase

/-! ## Queries -/

namespace AudioQuery

variable {q : AudioQuery} (reads : ∀ x ∈ q.singles, Single.ReadsBack x)

theorem all_requiredSingles (q : AudioQuery) :
    q.requiredSingles.all Float32.isFinite =
      (q.phrases.all (·.requiredSingles.all Float32.isFinite) &&
        q.ownSingles.all Float32.isFinite) := by
  unfold requiredSingles
  rw [List.all_append, List.all_flatMap]

include reads

theorem readsBack_phrases : ∀ p ∈ q.phrases, ∀ x ∈ p.singles, Single.ReadsBack x :=
  fun p mem x inside => reads x (List.mem_append_left _ (List.mem_flatMap.2 ⟨p, mem, inside⟩))

theorem readsBack_own : Single.ReadsBack q.speedScale ∧ Single.ReadsBack q.pitchScale ∧
    Single.ReadsBack q.intonationScale ∧ Single.ReadsBack q.volumeScale ∧
    Single.ReadsBack q.preSilence ∧ Single.ReadsBack q.postSilence := by
  have own : ∀ x ∈ q.ownSingles, Single.ReadsBack x :=
    fun x mem => reads x (List.mem_append_right _ mem)
  simpa [ownSingles] using own

theorem isPlain_toJson : q.toJson.IsPlain := by
  have phrases : (Json.array (q.phrases.map AccentPhrase.toJson)).IsPlain :=
    Json.isPlain_array fun p mem => AccentPhrase.isPlain_toJson (readsBack_phrases reads p mem)
  have format : q.format.toJson.IsPlain := .string _
  obtain ⟨speed, pitch, intonation, volume, pre, post⟩ := readsBack_own reads
  refine .object ?_
  simp only [List.forall_mem_cons]
  exact ⟨phrases, Json.isPlain_ofSingle speed, Json.isPlain_ofSingle pitch,
    Json.isPlain_ofSingle intonation, Json.isPlain_ofSingle volume, Json.isPlain_ofSingle pre,
    Json.isPlain_ofSingle post, Json.isPlain_ofNat _, .bool _, format, .string _, nofun⟩

theorem ofJson?_toJson (accents : ∀ p ∈ q.phrases, p.accent < accentBound) :
    ofJson? q.toJson =
      if q.requiredSingles.all Float32.isFinite then some q.withFiniteLengths else none := by
  have fields : Json.fields? fieldNames q.toJson = some ⟨false, _⟩ :=
    Json.fields?_object rfl (by decide)
  have phrases : Json.list? AccentPhrase.ofJson? (.array (q.phrases.map AccentPhrase.toJson)) = _ :=
    Json.list?_array fun p mem =>
      AccentPhrase.ofJson?_toJson (readsBack_phrases reads p mem) (accents p mem)
  have format : OutputFormat.ofJson? q.format.toJson = some q.format := rfl
  obtain ⟨speed, pitch, intonation, volume, pre, post⟩ := readsBack_own reads
  unfold ofJson?
  rw [fields]
  show (do
    let phrases ← Json.list? AccentPhrase.ofJson? (.array (q.phrases.map AccentPhrase.toJson))
    let speedScale ← Json.single? (.ofSingle q.speedScale)
    let pitchScale ← Json.single? (.ofSingle q.pitchScale)
    let intonationScale ← Json.single? (.ofSingle q.intonationScale)
    let volumeScale ← Json.single? (.ofSingle q.volumeScale)
    let preSilence ← Json.single? (.ofSingle q.preSilence)
    let postSilence ← Json.single? (.ofSingle q.postSilence)
    let rate ← Json.uint32? (.ofNat q.rate.toNat)
    let format ← OutputFormat.ofJson? q.format.toJson
    some (AudioQuery.mk phrases speedScale pitchScale intonationScale volumeScale preSilence
      postSilence rate q.stereo format q.kana)) = _
  rw [phrases, Json.single?_ofSingle speed, Json.single?_ofSingle pitch,
    Json.single?_ofSingle intonation, Json.single?_ofSingle volume, Json.single?_ofSingle pre,
    Json.single?_ofSingle post, Json.uint32?_ofNat, format, all_requiredSingles]
  simp only [ownSingles, List.all_cons, List.all_nil, Bool.and_true, Bool.and_eq_true, ite_and,
    Json.ite_some_bind]
  rfl

end AudioQuery

/-! ## Finite queries -/

theorem Mora.withFiniteLength_of_finite {m : Mora} (h : ∀ x ∈ m.singles, x.isFinite) :
    m.withFiniteLength = m := by
  unfold withFiniteLength
  cases length : m.consonantLength with
  | none => rw [Option.filter_none, ← length]
  | some x =>
    have finite : x.isFinite := h x (by simp [singles, length])
    rw [Option.filter_some, if_pos finite, ← length]

theorem AccentPhrase.withFiniteLengths_of_finite {p : AccentPhrase}
    (h : ∀ x ∈ p.singles, x.isFinite) : p.withFiniteLengths = p := by
  have each : ∀ m ∈ p.flatten, m.withFiniteLength = m := fun m mem =>
    Mora.withFiniteLength_of_finite fun x inside => h x (List.mem_flatMap.2 ⟨m, mem, inside⟩)
  have moras : p.moras.map Mora.withFiniteLength = p.moras :=
    (List.map_congr_left fun m mem => each m (List.mem_append_left _ mem)).trans (List.map_id _)
  have pause : p.pause.map Mora.withFiniteLength = p.pause := by
    cases found : p.pause with
    | none => rfl
    | some m => rw [Option.map_some, each m (by simp [flatten, found])]
  rw [withFiniteLengths, mapMoras, moras, pause]

namespace AudioQuery

variable {q : AudioQuery}

/-- A query whose numbers are all finite loses nothing. -/
theorem withFiniteLengths_of_finite (h : ∀ x ∈ q.singles, x.isFinite) :
    q.withFiniteLengths = q := by
  have each : ∀ p ∈ q.phrases, p.withFiniteLengths = p := by
    intro p mem
    apply AccentPhrase.withFiniteLengths_of_finite
    intro x inside
    exact h x (List.mem_append_left _ (List.mem_flatMap.2 ⟨p, mem, inside⟩))
  have phrases : q.phrases.map AccentPhrase.withFiniteLengths = q.phrases :=
    (List.map_congr_left each).trans (List.map_id _)
  rw [withFiniteLengths, phrases]

theorem mem_singles_of_required {x : Float32} (h : x ∈ q.requiredSingles) : x ∈ q.singles := by
  unfold requiredSingles AccentPhrase.requiredSingles at h
  unfold singles AccentPhrase.singles
  simp only [List.mem_append, List.mem_flatMap] at h ⊢
  refine h.imp_left ?_
  rintro ⟨p, listed, m, inside, mem⟩
  exact ⟨p, listed, m, inside, List.mem_append_right _ mem⟩

/-- A query whose numbers are all finite is read from its text as it was.  It cannot be read if one
of the numbers that it must have is not finite; otherwise it is read without the lengths for
consonants that are not finite. -/
theorem parse?_json (accents : ∀ p ∈ q.phrases, p.accent < accentBound)
    (reads : ∀ x ∈ q.singles, Single.ReadsBack x) :
    ((∀ x ∈ q.singles, x.isFinite) → parse? q.json = some q) ∧
    (parse? q.json = none ↔ ∃ x ∈ q.requiredSingles, x.isFinite = false) ∧
    ((∀ x ∈ q.requiredSingles, x.isFinite) → parse? q.json = some q.withFiniteLengths) := by
  have read : parse? q.json =
      if q.requiredSingles.all Float32.isFinite then some q.withFiniteLengths else none := by
    rw [parse?, json, Json.parse_render (isPlain_toJson reads), Option.bind_eq_bind,
      Option.bind_some, ofJson?_toJson reads accents]
  have finite (h : ∀ x ∈ q.requiredSingles, x.isFinite) :
      parse? q.json = some q.withFiniteLengths := by
    rw [read, if_pos (List.all_eq_true.2 h)]
  refine ⟨fun h => ?_, ?_, finite⟩
  · rw [finite fun x mem => h x (mem_singles_of_required mem), withFiniteLengths_of_finite h]
  · rw [read]
    simp

/-- A query with a question, a pause that has a length for a consonant but no consonant, and texts
with all kinds of characters. -/
def sampleQuery (length speed : Float32) : AudioQuery where
  phrases :=
    [{ moras := [⟨"カ", some "k", some 0.05, "a", 0.1, 5.5⟩], accent := 1,
       pause := some ⟨"、", none, some length, "pau", 0.3, 0⟩ },
     { moras := [⟨"\"\\\n\u0001\u007f", some "", none, "𝄞", 1e-30, 6.5⟩,
                 ⟨"ア", none, none, "a", 2e20, 5⟩],
       accent := 18446744073709551615, isQuestion := true }]
  speedScale := speed
  rate := 4294967295
  stereo := true
  kana := "カ'、ア'？"

theorem parse?_json_sampleQuery :
    parse? (sampleQuery 0.02 (-0)).json = some (sampleQuery 0.02 (-0)) ∧
    parse? (sampleQuery (0 / 0) 1.2).json = some (sampleQuery (0 / 0) 1.2).withFiniteLengths ∧
    (sampleQuery (0 / 0) 1.2).withFiniteLengths ≠ sampleQuery (0 / 0) 1.2 ∧
    parse? (sampleQuery 0.02 (1 / 0)).json = none := by
  have accents (length speed : Float32) :
      ∀ p ∈ (sampleQuery length speed).phrases, p.accent < accentBound := by
    simp [sampleQuery, accentBound]
  have usual : ∀ x ∈ (sampleQuery 0.02 (-0)).singles, Single.ReadsBack x := by decide +kernel
  have lengthless : ∀ x ∈ (sampleQuery (0 / 0) 1.2).singles, Single.ReadsBack x := by
    decide +kernel
  have endless : ∀ x ∈ (sampleQuery 0.02 (1 / 0)).singles, Single.ReadsBack x := by decide +kernel
  refine ⟨?_, ?_, ?_, ?_⟩
  · exact (parse?_json (accents _ _) usual).1 (by decide +kernel)
  · exact (parse?_json (accents _ _) lengthless).2.2 (by decide +kernel)
  · decide +kernel
  · exact (parse?_json (accents _ _) endless).2.1.2 (by decide +kernel)

end AudioQuery

end KanaVoice
