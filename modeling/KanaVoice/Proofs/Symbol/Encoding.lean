import KanaVoice.Proofs.Except
import KanaVoice.Proofs.Speech.StreamLength
import KanaVoice.Symbol.Table
set_option autoImplicit false

/-!
# Numbers of symbols

The number of a symbol is a place where the symbol stands, and an encoding has one number for each
symbol of the two streams.
-/

namespace KanaVoice

/-! ## Symbols and their numbers

A list of numbers spells the symbols that it was made from.  Only a symbol that is not listed has no
number. -/

namespace SymbolTable

variable {symbol : String} {names symbols : List String} {ids : List Int}

/-! ### Places -/

theorem getElem?_lastPlace? {place : Nat} (h : lastPlace? symbol names = some place) :
    names[place]? = some symbol := by
  induction names generalizing place with
  | nil => cases h
  | cons name rest ih =>
    rw [lastPlace?] at h
    split at h
    case h_1 later found =>
      cases h
      exact ih found
    case h_2 =>
      split at h
      case isTrue same =>
        cases h
        exact congrArg some same
      case isFalse => cases h

theorem exists_lastPlace? (h : symbol ∈ names) : ∃ place, lastPlace? symbol names = some place := by
  induction names with
  | nil => cases h
  | cons name rest ih =>
    rw [lastPlace?]
    split
    case h_1 place found => exact ⟨place + 1, rfl⟩
    case h_2 absent =>
      rcases List.mem_cons.1 h with rfl | later
      · exact ⟨0, if_pos rfl⟩
      · obtain ⟨place, found⟩ := ih later
        rw [found] at absent
        cases absent

/-! ### Numbers -/

/-- The numbers are places in the list, and there stand the symbols. -/
structure Spells (names : List String) (ids : List Int) (symbols : List String) : Prop where
  places : ∀ n ∈ ids, 0 ≤ n ∧ n < names.length
  symbols : ids.map (fun n => names[n.toNat]?) = symbols.map some

theorem Spells.cons {n : Int} (h : Spells names ids symbols) (nonneg : 0 ≤ n)
    (stands : names[n.toNat]? = some symbol) : Spells names (n :: ids) (symbol :: symbols) where
  places := by
    obtain ⟨within, -⟩ := List.getElem?_eq_some_iff.1 stands
    exact List.forall_mem_cons.2 ⟨⟨nonneg, by omega⟩, h.places⟩
  symbols := by rw [List.map_cons, List.map_cons, stands, h.symbols]

variable {t : SymbolTable} {kind : SymbolKind}

theorem id_eq_ok_iff {n : Int} :
    t.id kind symbol = .ok n ↔ ∃ place : Nat, lastPlace? symbol (t.list kind) = some place ∧
      n = place := by
  unfold id
  split
  case h_1 place found => simp [found, eq_comm]
  case h_2 absent => simp [absent]

theorem spells_of_ids (h : t.ids kind symbols = .ok ids) : Spells (t.list kind) ids symbols := by
  induction symbols generalizing ids with
  | nil =>
    cases h
    exact ⟨nofun, rfl⟩
  | cons symbol rest ih =>
    obtain ⟨n, more, first, later, rfl⟩ := mapM_cons_eq_ok_iff.1 h
    obtain ⟨place, found, rfl⟩ := id_eq_ok_iff.1 first
    exact (ih later).cons (Int.natCast_nonneg place) (getElem?_lastPlace? found)

theorem exists_ids (h : ∀ symbol ∈ symbols, symbol ∈ t.list kind) :
    ∃ ids, t.ids kind symbols = .ok ids := by
  induction symbols with
  | nil => exact ⟨[], rfl⟩
  | cons symbol rest ih =>
    obtain ⟨listed, more⟩ := List.forall_mem_cons.1 h
    obtain ⟨place, found⟩ := exists_lastPlace? listed
    obtain ⟨ids, later⟩ := ih more
    exact ⟨place :: ids, mapM_cons_eq_ok_iff.2 ⟨place, ids, id_eq_ok_iff.2 ⟨place, found, rfl⟩,
      later, rfl⟩⟩

end SymbolTable

/-! ## What an encoding holds

An encoding exists exactly when the table knows all symbols, and an unknown one is its only fault. -/

theorem encode_eq_ok_iff {symbols : SymbolTable} {phrases : List AccentPhrase} {c : Encoding} :
    encode symbols phrases = .ok c ↔
      c.moras = flattenMoras phrases ∧
      symbols.ids .phoneme (phonemeSymbols (flattenMoras phrases)) = .ok c.phonemeIds ∧
      symbols.ids .accent (accentSymbols phrases) = .ok c.accentIds := by
  unfold encode
  simp only [except_bind_eq_ok_iff, Except.ok.injEq]
  constructor
  · rintro ⟨phonemeIds, phonemes, accentIds, accents, rfl⟩
    exact ⟨rfl, phonemes, accents⟩
  · rintro ⟨moras, phonemes, accents⟩
    exact ⟨c.phonemeIds, phonemes, c.accentIds, accents, by rw [← moras]⟩

theorem length_phonemeIds {symbols : SymbolTable} {phrases : List AccentPhrase} {c : Encoding}
    (h : encode symbols phrases = .ok c) : c.phonemeIds.length = phonemeTotal phrases := by
  obtain ⟨-, phonemes, -⟩ := encode_eq_ok_iff.1 h
  rw [length_eq_of_mapM_eq_ok phonemes, length_phonemeSymbols, sum_phonemeCount_flattenMoras]

theorem phonemeIds_ne_nil {symbols : SymbolTable} {phrases : List AccentPhrase} {c : Encoding}
    (h : encode symbols phrases = .ok c) (nonempty : phonemeTotal phrases ≠ 0) :
    c.phonemeIds ≠ [] := by
  intro empty
  have length := length_phonemeIds h
  rw [empty, List.length_nil] at length
  exact nonempty length.symm

theorem length_accentIds {symbols : SymbolTable} {phrases : List AccentPhrase} {c : Encoding}
    (bare : ∀ p ∈ phrases, p.HasBarePause) (h : encode symbols phrases = .ok c) :
    c.accentIds.length = phonemeTotal phrases := by
  obtain ⟨-, -, accents⟩ := encode_eq_ok_iff.1 h
  rw [length_eq_of_mapM_eq_ok accents, length_accentSymbols bare]

theorem failsOnly_ids (symbols : SymbolTable) (kind : SymbolKind) (names : List String) :
    FailsOnly (fun f => ∃ symbol, f = .unknownSymbol kind symbol) (symbols.ids kind names) := by
  apply FailsOnly.mapM
  intro name _
  unfold SymbolTable.id
  split
  · exact .ok _
  · exact .error ⟨name, rfl⟩

theorem failsOnly_encode (symbols : SymbolTable) (phrases : List AccentPhrase) :
    FailsOnly (fun f => ∃ kind symbol, f = .unknownSymbol kind symbol)
      (encode symbols phrases) := by
  have ids (kind names) : FailsOnly (fun f => ∃ kind symbol, f = Fault.unknownSymbol kind symbol)
      (symbols.ids kind names) :=
    (failsOnly_ids symbols kind names).mono fun _ h => ⟨kind, h⟩
  exact .bind (ids _ _) fun _ _ => .bind (ids _ _) fun _ _ => .ok _

end KanaVoice
