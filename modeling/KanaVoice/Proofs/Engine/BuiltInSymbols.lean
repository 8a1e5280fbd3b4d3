import KanaVoice.Proofs.Engine.MissingModels
import KanaVoice.Proofs.Speech.BuiltInSymbols
set_option autoImplicit false

/-!
# Speaking in built-in symbols

An unknown symbol is only found where phrases are encoded.  Notation is read into phrases that the
built-in symbols cover with any prosody, so an engine with these symbols speaks notation without
finding an unknown one, whatever the backend answers.
-/

namespace KanaVoice

variable {S : Type} (b : Backend S)

/-- The fault says that a symbol is not in its list. -/
def Fault.IsUnknownSymbol : Fault → Prop
  | .unknownSymbol .. => True
  | _ => False

theorem Fault.IsOfStages.not_isUnknownSymbol {fault : Fault} (h : fault.IsOfStages) :
    ¬ fault.IsUnknownSymbol := by
  intro unknown
  unfold IsUnknownSymbol at unknown
  split at unknown
  case h_1 => exact h
  case h_2 => exact unknown

/-! ## Voices that have the symbols -/

namespace Voices

variable {v : Voices S} {phrases : List AccentPhrase} {speaker : Int64}

theorem yields_encode_of_covers (h : v.symbols.Covers phrases) :
    Yields (liftM (encode v.symbols phrases) : Calls S Encoding) (fun _ => True)
      fun fault => ¬ fault.IsUnknownSymbol := by
  obtain ⟨c, encoded⟩ := h.exists_encode
  rw [encoded]
  exact .liftFault (.ok c)

theorem yields_sessions_known :
    Yields (liftM (v.catalogue.sessions speaker) : Calls S (Sessions S)) (fun _ => True)
      fun fault => ¬ fault.IsUnknownSymbol := by
  refine .liftFault ((v.catalogue.failsOnly_sessions speaker).mono fun fault kind => ?_)
  rcases kind with rfl | rfl
  · exact id
  · exact id

theorem yields_predict_of_covers (h : v.symbols.Covers phrases) :
    Yields (v.predict b phrases speaker) (fun _ => True) fun fault => ¬ fault.IsUnknownSymbol := by
  refine .seq (yields_encode_of_covers h) fun c => .seq yields_sessions_known fun sessions => ?_
  exact (yields_variance_isOfStages b _ _ _ _).monoFault fun _ => (·.not_isUnknownSymbol)

theorem yields_placed (what : String)
    (place : AccentPhrase → List Float32 → Option (AccentPhrase × List Float32))
    (phrases : List AccentPhrase) (values : List Float32) :
    Yields (liftM (placeValues what place phrases values) : Calls S (List AccentPhrase))
      (fun placed => placeValues what place phrases values = .ok placed)
      fun fault => ¬ fault.IsUnknownSymbol :=
  .lift (fun _ => id) ((failsOnly_placeValues ..).mono fun _ => (·.not_isUnknownSymbol))

theorem yields_predictProsody_of_covers (h : v.symbols.Covers phrases) :
    Yields (v.predictProsody b phrases speaker) (Adjusted phrases)
      fun fault => ¬ fault.IsUnknownSymbol := by
  have timed : Yields (v.predictLengths b phrases speaker) (fun r => Adjusted phrases r.1)
      fun fault => ¬ fault.IsUnknownSymbol := by
    refine .seq (yields_predict_of_covers b h) fun p => ?_
    exact (yields_placed ..).bind fun placed run => .pure (.lengths .none run)
  refine timed.bind fun r chain => ?_
  exact (yields_placed ..).mono fun placed run => .pitches chain run

theorem yields_speak_of_covers {query : AudioQuery}
    (h : v.symbols.Covers (withUpspeak query.phrases)) :
    Yields (v.speak b query speaker true) (fun _ => True)
      fun fault => ¬ fault.IsUnknownSymbol := by
  refine .seq (yields_encode_of_covers h) fun c => .seq yields_sessions_known fun sessions => ?_
  refine .seq ?_ fun wave => .liftFault ((failsOnly_padSilence ..).mono fun fault kind => ?_)
  · exact (yields_decodeForward_isOfStages b _ _ _ _ _).monoFault fun _ => (·.not_isUnknownSymbol)
  · obtain ⟨what, seconds, rfl⟩ := kind
    exact id

end Voices

/-! ## Engines that have the symbols -/

namespace Engine

/-- The engine's voices, if it has any, have the built-in symbols. -/
def HasBuiltIn (voices : Option (Voices S)) : Prop := ∀ v ∈ voices, v.symbols = .builtIn

/-- An engine with the built-in symbols keeps them and knows every symbol it needs. -/
abbrev KeepsBuiltIn {α : Type} (x : Op S α) (good : α → Prop) : Prop :=
  YieldsUnder (fun e => HasBuiltIn e.voices) x good fun fault => ¬ fault.IsUnknownSymbol

variable {speaker : Int64}

theorem keepsBuiltIn_requireVoices :
    KeepsBuiltIn (requireVoices : Op S (Voices S)) (fun v => v.symbols = .builtIn) where
  value {e _ v} builtIn run := by
    rw [outcome_requireVoices] at run
    split at run
    case h_1 v' started =>
      cases run
      exact ⟨builtIn v started, builtIn⟩
    case h_2 => cases run
  fault {e _ fault} _ run := by
    rw [outcome_requireVoices] at run
    split at run
    case h_1 => cases run
    case h_2 =>
      cases run
      exact id

/-- Loading models changes no symbols. -/
theorem keepsBuiltIn_requireLoaded :
    KeepsBuiltIn (requireLoaded b speaker) (fun v => v.symbols = .builtIn) where
  value {e _ v'} builtIn run := by
    cases started : e.voices with
    | none =>
      unfold requireLoaded at run
      rw [outcome_bind, outcome_requireVoices, started] at run
      cases run
    | some v =>
      obtain ⟨_, _, _, _, -, -, rfl, -, rfl⟩ := outcome_requireLoaded_of_ok b started run
      have symbols := builtIn v started
      refine ⟨symbols, fun v' same => ?_⟩
      cases same
      exact symbols
  fault _ run := by
    rcases fault_of_requireLoaded b run with rfl | rfl | ⟨path, reason, rfl⟩
    · exact id
    · exact id
    · exact id

section

variable {phrases placed : List AccentPhrase} (canonical : Kana.Canonical phrases)

include canonical

theorem keepsBuiltIn_replaceProsody :
    KeepsBuiltIn (replaceProsody b phrases speaker) (Adjusted phrases) := by
  refine (keepsBuiltIn_requireLoaded b).bind fun v symbols => ?_
  have covers : v.symbols.Covers phrases := symbols ▸ canonical.covers_adjusted .none
  exact yieldsUnder_perform (Voices.yields_predictProsody_of_covers b covers)

theorem keepsBuiltIn_synthesizeWav (chain : Adjusted phrases placed) :
    KeepsBuiltIn (synthesizeWav b (.ofPhrases placed) speaker true) (fun _ => True) := by
  have speech : KeepsBuiltIn (synthesize b (.ofPhrases placed) speaker true) (fun _ => True) := by
    refine (keepsBuiltIn_requireLoaded b).bind fun v symbols => ?_
    have covers : v.symbols.Covers (withUpspeak placed) :=
      symbols ▸ canonical.covers_adjusted (.upspeak chain)
    exact yieldsUnder_perform (Voices.yields_speak_of_covers b covers)
  exact speech.bind fun _ _ => .pure trivial

end

theorem keepsBuiltIn_kanaToWav (text : String) :
    KeepsBuiltIn (kanaToWav b text speaker) (fun _ => True) := by
  have read : KeepsBuiltIn (liftM (Kana.read text) : Op S (List AccentPhrase)) Kana.Canonical := by
    refine .lift (fun phrases isRead => (Kana.written_of_read isRead).2)
      ((failsOnly_readKana text).mono fun fault kind => ?_)
    obtain ⟨cause, rfl⟩ := kind
    exact id
  refine keepsBuiltIn_requireVoices.bind fun _ _ => read.bind fun phrases canonical => ?_
  refine (keepsBuiltIn_replaceProsody b canonical).bind fun placed chain => ?_
  exact keepsBuiltIn_synthesizeWav b canonical chain

end Engine

/-- The encoding has the numbers of these phrases' symbols in the built-in lists of 45 phonemes and
5 accent symbols. -/
structure Encoding.InBuiltIn (c : Encoding) (phrases : List AccentPhrase) : Prop where
  phonemes : ∀ n ∈ c.phonemeIds, 0 ≤ n ∧ n < 45
  accents : ∀ n ∈ c.accentIds, 0 ≤ n ∧ n < 5
  phonemeSymbols : c.phonemeIds.map (fun n => SymbolTable.builtIn.phonemes[n.toNat]?) =
    (phonemeSymbols (flattenMoras phrases)).map some
  accentSymbols : c.accentIds.map (fun n => SymbolTable.builtIn.accents[n.toNat]?) =
    (accentSymbols phrases).map some

theorem inBuiltIn_of_encode {phrases : List AccentPhrase} {c : Encoding}
    (h : encode .builtIn phrases = .ok c) : c.InBuiltIn phrases := by
  obtain ⟨-, phonemes, accents⟩ := encode_eq_ok_iff.1 h
  have phonemes := SymbolTable.spells_of_ids phonemes
  have accents := SymbolTable.spells_of_ids accents
  exact ⟨phonemes.places, accents.places, phonemes.symbols, accents.symbols⟩

/-- What was read is encoded in the built-in symbols whatever lengths, pitches and rises it is
given, the numbers can be turned back into the symbols, and an engine that has these symbols, or no
voices at all, never finds an unknown one in a notation. -/
theorem inBuiltIn_of_read :
    (∀ (text : String) (phrases adjusted : List AccentPhrase), Kana.read text = .ok phrases →
      Adjusted phrases adjusted →
      ∃ c, encode .builtIn adjusted = .ok c ∧ c.InBuiltIn adjusted) ∧
    ∀ {S : Type} (b : Backend S) (e : Engine S), (∀ v ∈ e.voices, v.symbols = .builtIn) →
      ∀ (text : String) (speaker : Int64) (kind : SymbolKind) (symbol : String),
        (outcome (Engine.kanaToWav b text speaker) e).1 ≠ .error (.unknownSymbol kind symbol) := by
  constructor
  · intro text phrases adjusted isRead chain
    obtain ⟨-, canonical⟩ := Kana.written_of_read isRead
    obtain ⟨c, encoded⟩ := (canonical.covers_adjusted chain).exists_encode
    exact ⟨c, encoded, inBuiltIn_of_encode encoded⟩
  · intro S b e builtIn text speaker kind symbol unknown
    exact (Engine.keepsBuiltIn_kanaToWav b text).fault builtIn (Prod.ext unknown rfl) trivial

theorem inBuiltIn_of_read_sample :
    Kana.read "テ'/_シ'タ、キョ'ウ？" = .ok Kana.sample ∧
    (∃ timed tuned c, withLengths Kana.sample (List.replicate 10 0.1) = .ok timed ∧
      withPitches timed (List.replicate 10 5) = .ok tuned ∧
      encode .builtIn (withUpspeak tuned) = .ok c ∧ c.phonemeIds.length = 11 ∧
      c.InBuiltIn (withUpspeak tuned)) ∧
    questionEngine.voices = some questionVoices ∧ questionVoices.symbols = .builtIn ∧
    ∀ kind symbol, (outcome (Engine.kanaToWav questionBackend "カ'？" 7) questionEngine).1 ≠
      .error (.unknownSymbol kind symbol) := by
  obtain ⟨encodes, speaks⟩ := inBuiltIn_of_read
  have isRead : Kana.read "テ'/_シ'タ、キョ'ウ？" = .ok Kana.sample :=
    Kana.read_eq_ok_iff.2 ⟨by decide +kernel, by decide +kernel⟩
  refine ⟨isRead, ?_, rfl, rfl, ?_⟩
  · obtain ⟨timed, tuned, c, lengths, tones, encoded, count⟩ := exists_adjusted_sample
    have chain : Adjusted Kana.sample (withUpspeak tuned) :=
      .upspeak (.pitches (.lengths .none lengths) tones)
    obtain ⟨c', encoded', inBuiltIn⟩ := encodes _ _ _ isRead chain
    rw [encoded, Except.ok.injEq] at encoded'
    subst encoded'
    exact ⟨timed, tuned, c, lengths, tones, encoded, count, inBuiltIn⟩
  · refine fun kind symbol => speaks questionBackend questionEngine ?_ _ _ kind symbol
    rintro v ⟨⟩
    rfl

end KanaVoice
