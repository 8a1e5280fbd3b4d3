import KanaVoice.Proofs.Json.Record
import KanaVoice.Proofs.Symbol.Encoding
set_option autoImplicit false

/-!
# Symbols read back from their numbers

A table numbers the symbols of a file by their places, a repeated symbol by its last one.  The same
numbers come out when the symbols are entered one after another and a later entry takes the place of
an earlier one.  Numbers are found exactly when all symbols are listed, and the list gives the
symbols back; otherwise the first symbol that is not listed is reported.
-/

namespace KanaVoice

namespace SymbolTable

variable {names symbols : List String} {symbol : String} {ids : List Int}

/-! ## Entering symbols in order -/

/-- The place of each symbol, the symbols being entered in their order. -/
def index (names : List String) : Std.HashMap String Nat :=
  names.zipIdx.foldl (fun table entry => table.insert entry.1 entry.2) ∅

theorem getElem?_foldl_insert_zipIdx (names : List String) (start : Nat)
    (table : Std.HashMap String Nat) (symbol : String) :
    ((names.zipIdx start).foldl (fun table entry => table.insert entry.1 entry.2) table)[symbol]? =
      ((lastPlace? symbol names).map (start + ·)).or table[symbol]? := by
  induction names generalizing start table with
  | nil => rfl
  | cons name rest ih =>
    rw [List.zipIdx_cons, List.foldl_cons, ih, lastPlace?]
    cases lastPlace? symbol rest with
    | some place =>
      simp only [Option.map_some, Option.some_or]
      rw [Nat.add_assoc, Nat.add_comm 1 place]
    | none =>
      rw [Std.HashMap.getElem?_insert]
      by_cases same : name = symbol
      · simp [same]
      · simp [same]

/-- Entering the symbols in order finds the last place of each. -/
theorem getElem?_index (names : List String) (symbol : String) :
    (index names)[symbol]? = lastPlace? symbol names := by
  rw [index, getElem?_foldl_insert_zipIdx, Std.HashMap.getElem?_empty, Option.or_none]
  simp

/-! ## The last place -/

/-- The symbol stands at this place of the list and at no later one. -/
structure StandsLast (names : List String) (symbol : String) (n : Int) : Prop where
  nonneg : 0 ≤ n
  stands : names[n.toNat]? = some symbol
  last : ∀ later, n.toNat < later → names[later]? ≠ some symbol

theorem getElem?_ne_of_lastPlace?_lt {place later : Nat}
    (h : lastPlace? symbol names = some place) (beyond : place < later) :
    names[later]? ≠ some symbol := by
  induction names generalizing place later with
  | nil => cases h
  | cons name rest ih =>
    obtain ⟨next, rfl⟩ : ∃ next, later = next + 1 := ⟨later - 1, by omega⟩
    rw [List.getElem?_cons_succ]
    rw [lastPlace?] at h
    split at h
    case h_1 found =>
      cases h
      exact ih found (by omega)
    case h_2 absent =>
      intro again
      obtain ⟨place', found⟩ := exists_lastPlace? (List.mem_of_getElem? again)
      rw [found] at absent
      cases absent

theorem StandsLast.mem {n : Int} (h : StandsLast names symbol n) : symbol ∈ names :=
  List.mem_of_getElem? h.stands

/-- No two symbols stand at one place. -/
theorem StandsLast.symbol_eq {other : String} {n : Int} (h : StandsLast names symbol n)
    (h' : StandsLast names other n) : symbol = other := by
  have same := h.stands
  rw [h'.stands] at same
  exact (Option.some.inj same).symm

theorem StandsLast.unique {n n' : Int} (h : StandsLast names symbol n)
    (h' : StandsLast names symbol n') : n = n' := by
  have notBefore := h.last n'.toNat
  have notBehind := h'.last n.toNat
  have := h.nonneg
  have := h'.nonneg
  rcases lt_trichotomy n.toNat n'.toNat with before | same | behind
  · exact absurd h'.stands (notBefore before)
  · omega
  · exact absurd h.stands (notBehind behind)

theorem standsLast_of_lastPlace? {place : Nat} (h : lastPlace? symbol names = some place) :
    StandsLast names symbol place where
  nonneg := Int.natCast_nonneg place
  stands := getElem?_lastPlace? h
  last _ beyond := getElem?_ne_of_lastPlace?_lt h beyond

/-! ## Numbers -/

section

variable {t : SymbolTable} {kind : SymbolKind} {fault : Fault}

/-- The number of a symbol is its last place. -/
theorem id_eq_ok_iff_standsLast {n : Int} :
    t.id kind symbol = .ok n ↔ StandsLast (t.list kind) symbol n := by
  rw [id_eq_ok_iff]
  constructor
  · rintro ⟨place, found, rfl⟩
    exact standsLast_of_lastPlace? found
  · intro stands
    obtain ⟨place, found⟩ := exists_lastPlace? stands.mem
    exact ⟨place, found, stands.unique (standsLast_of_lastPlace? found)⟩

theorem id_eq_error_iff :
    t.id kind symbol = .error fault ↔
      symbol ∉ t.list kind ∧ fault = .unknownSymbol kind symbol := by
  unfold id
  split
  case h_1 place found =>
    have listed := (standsLast_of_lastPlace? found).mem
    exact iff_of_false nofun fun h => h.1 listed
  case h_2 absent =>
    have unlisted : symbol ∉ t.list kind := by
      intro listed
      obtain ⟨place, found⟩ := exists_lastPlace? listed
      rw [found] at absent
      cases absent
    rw [Except.error.injEq, eq_comm, and_iff_right unlisted]

/-- Each of the numbers is the last place of its symbol. -/
theorem ids_eq_ok_iff :
    t.ids kind symbols = .ok ids ↔ List.Forall₂ (StandsLast (t.list kind)) symbols ids := by
  induction symbols generalizing ids with
  | nil =>
    rw [List.forall₂_nil_left_iff]
    exact ⟨fun h => (Except.ok.inj h).symm, fun h => congrArg Except.ok h.symm⟩
  | cons symbol rest ih =>
    rw [SymbolTable.ids, mapM_cons_eq_ok_iff, List.forall₂_cons_left_iff]
    constructor
    · rintro ⟨n, more, first, later, rfl⟩
      exact ⟨n, more, id_eq_ok_iff_standsLast.1 first, ih.1 later, rfl⟩
    · rintro ⟨n, more, first, later, rfl⟩
      exact ⟨n, more, id_eq_ok_iff_standsLast.2 first, ih.2 later, rfl⟩

/-- The first of the symbols that is not in a list. -/
def firstUnlisted? (names symbols : List String) : Option String := symbols.find? (· ∉ names)

/-- The first symbol that is not listed is reported. -/
theorem ids_eq_error_iff :
    t.ids kind symbols = .error fault ↔
      ∃ symbol, firstUnlisted? (t.list kind) symbols = some symbol ∧
        fault = .unknownSymbol kind symbol := by
  unfold firstUnlisted?
  induction symbols with
  | nil => exact iff_of_false nofun nofun
  | cons symbol rest ih =>
    rw [SymbolTable.ids, List.mapM_cons, except_bind_eq_error_iff, id_eq_error_iff, List.find?_cons]
    by_cases listed : symbol ∈ t.list kind
    · obtain ⟨place, found⟩ := exists_lastPlace? listed
      have number : t.id kind symbol = .ok place := id_eq_ok_iff.2 ⟨place, found, rfl⟩
      simp only [listed, not_true_eq_false, false_and, false_or, decide_false, number,
        Except.ok.injEq, exists_eq_left', except_bind_eq_error_iff]
      rw [← ih, SymbolTable.ids]
      exact or_iff_left nofun
    · have none : ∀ n, t.id kind symbol ≠ .ok n := fun n number =>
        listed (id_eq_ok_iff_standsLast.1 number).mem
      simp [listed, none]

theorem exists_ids_iff :
    (∃ ids, t.ids kind symbols = .ok ids) ↔ ∀ symbol ∈ symbols, symbol ∈ t.list kind := by
  constructor
  · rintro ⟨ids, numbered⟩ symbol mem
    have among : t.id kind symbol ∈ ids.map .ok := by
      rw [← mapM_eq_ok_iff.1 numbered]
      exact List.mem_map_of_mem mem
    obtain ⟨n, -, number⟩ := List.mem_map.1 among
    exact (id_eq_ok_iff_standsLast.1 number.symm).mem
  · exact exists_ids

theorem Spells.symbols_eq {symbols' : List String} (h : Spells names ids symbols)
    (h' : Spells names ids symbols') : symbols = symbols' := by
  have same := h.symbols
  rw [h'.symbols] at same
  exact (List.map_injective_iff.2 (Option.some_injective _) same).symm

end

/-! ## The file -/

/-- The file at a path describes the table: its two members are the lists, and neither is empty. -/
structure DescribedBy (tree : FileTree) (path : Path) (t : SymbolTable) : Prop where
  members : ∃ text value fields, tree.readText path = .ok text ∧ Json.parse text = some value ∧
    Json.fields? ["phonemes", "accents"] value = some fields ∧
    fields.get? "phonemes" = some (.array (t.phonemes.map .string)) ∧
    fields.get? "accents" = some (.array (t.accents.map .string))
  filled : t.phonemes ≠ [] ∧ t.accents ≠ []

theorem ofJson?_eq_some_iff {value : Json} {t : SymbolTable} :
    ofJson? value = some t ↔
      ∃ fields, Json.fields? ["phonemes", "accents"] value = some fields ∧
        fields.get? "phonemes" = some (.array (t.phonemes.map .string)) ∧
        fields.get? "accents" = some (.array (t.accents.map .string)) := by
  unfold ofJson?
  simp only [Json.Fields.required, Option.bind_eq_bind, Option.bind_eq_some_iff,
    Json.list?_text?_eq_some_iff, Option.pure_def, Option.some.injEq]
  constructor
  · rintro ⟨fields, found, phonemes, ⟨_, first, rfl⟩, accents, ⟨_, second, rfl⟩, rfl⟩
    exact ⟨fields, found, first, second⟩
  · rintro ⟨fields, found, first, second⟩
    exact ⟨fields, found, t.phonemes, ⟨_, first, rfl⟩, t.accents, ⟨_, second, rfl⟩, rfl⟩

/-- A table is loaded exactly when the file describes it. -/
theorem load_eq_ok_iff {tree : FileTree} {path : Path} {t : SymbolTable} :
    load tree path = .ok t ↔ t.DescribedBy tree path := by
  unfold load
  rw [except_bind_eq_ok_iff]
  constructor
  · rintro ⟨text, isText, h⟩
    rw [mapError_eq_ok_iff] at isText
    split at h
    case h_1 => cases h
    case h_2 table described =>
      obtain ⟨value, parsed, described⟩ := Option.bind_eq_some_iff.1 described
      obtain ⟨fields, found, phonemes, accents⟩ := ofJson?_eq_some_iff.1 described
      split at h
      case isTrue => cases h
      case isFalse filled =>
        cases h
        simp only [Bool.or_eq_true, List.isEmpty_iff, not_or] at filled
        exact ⟨⟨text, value, fields, isText, parsed, found, phonemes, accents⟩, filled⟩
  · rintro ⟨⟨text, value, fields, isText, parsed, found, phonemes, accents⟩, filled⟩
    refine ⟨text, mapError_eq_ok_iff.2 isText, ?_⟩
    have described : (Json.parse text >>= ofJson?) = some t := by
      rw [parsed]
      exact ofJson?_eq_some_iff.2 ⟨fields, found, phonemes, accents⟩
    rw [described]
    exact if_neg (by simpa using filled)

/-! ## Encoded phrases -/

section

variable {t : SymbolTable} {phrases : List AccentPhrase} {c : Encoding} {fault : Fault}

/-- An unknown phoneme is reported before any unknown accent symbol. -/
theorem encode_eq_error_iff :
    encode t phrases = .error fault ↔
      (∃ symbol, firstUnlisted? t.phonemes (phonemeSymbols (flattenMoras phrases)) = some symbol ∧
        fault = .unknownSymbol .phoneme symbol) ∨
      (∀ symbol ∈ phonemeSymbols (flattenMoras phrases), symbol ∈ t.phonemes) ∧
        ∃ symbol, firstUnlisted? t.accents (accentSymbols phrases) = some symbol ∧
          fault = .unknownSymbol .accent symbol := by
  have phonemes : (∃ ids, t.ids .phoneme (phonemeSymbols (flattenMoras phrases)) = .ok ids) ↔
      ∀ symbol ∈ phonemeSymbols (flattenMoras phrases), symbol ∈ t.phonemes := exists_ids_iff
  have accents : t.ids .accent (accentSymbols phrases) = .error fault ↔
      ∃ symbol, firstUnlisted? t.accents (accentSymbols phrases) = some symbol ∧
        fault = .unknownSymbol .accent symbol := ids_eq_error_iff
  unfold encode
  rw [except_bind_eq_error_iff, ids_eq_error_iff, ← phonemes, ← accents]
  refine or_congr Iff.rfl ?_
  simp [except_bind_eq_error_iff]

/-- The numbers of an encoding spell the symbols of the phrases. -/
theorem spells_of_encode (h : encode t phrases = .ok c) :
    Spells t.phonemes c.phonemeIds (phonemeSymbols (flattenMoras phrases)) ∧
      Spells t.accents c.accentIds (accentSymbols phrases) := by
  obtain ⟨-, phonemes, accents⟩ := encode_eq_ok_iff.1 h
  exact ⟨spells_of_ids phonemes, spells_of_ids accents⟩

end

/-! ## Reading back -/

/-- The numbers that a table gives can be read back. -/
structure ReadsBack (t : SymbolTable) : Prop where
  /-- The same places are found when the symbols are entered in their order. -/
  entered : ∀ kind symbol, (index (t.list kind))[symbol]? = lastPlace? symbol (t.list kind)
  /-- Symbols have numbers exactly when all of them are listed. -/
  known : ∀ kind symbols,
    (∃ ids, t.ids kind symbols = .ok ids) ↔ ∀ symbol ∈ symbols, symbol ∈ t.list kind
  /-- Otherwise the first one that is not listed is reported. -/
  unknown : ∀ kind symbols fault, t.ids kind symbols = .error fault ↔
    ∃ symbol, firstUnlisted? (t.list kind) symbols = some symbol ∧
      fault = .unknownSymbol kind symbol
  /-- The numbers are the last places of the symbols. -/
  places : ∀ kind symbols ids, t.ids kind symbols = .ok ids ↔
    List.Forall₂ (StandsLast (t.list kind)) symbols ids
  /-- The list gives the symbols back. -/
  symbols : ∀ kind symbols ids, t.ids kind symbols = .ok ids → Spells (t.list kind) ids symbols
  distinct : ∀ kind symbol symbol' n, t.id kind symbol = .ok n → t.id kind symbol' = .ok n →
    symbol = symbol'
  /-- An unknown phoneme of phrases is reported before any unknown accent symbol. -/
  firstFault : ∀ phrases fault, encode t phrases = .error fault ↔
    (∃ symbol, firstUnlisted? t.phonemes (phonemeSymbols (flattenMoras phrases)) = some symbol ∧
      fault = .unknownSymbol .phoneme symbol) ∨
    (∀ symbol ∈ phonemeSymbols (flattenMoras phrases), symbol ∈ t.phonemes) ∧
      ∃ symbol, firstUnlisted? t.accents (accentSymbols phrases) = some symbol ∧
        fault = .unknownSymbol .accent symbol
  /-- What phrases are encoded as gives their symbols back, so that it determines them. -/
  encoded : ∀ phrases c, encode t phrases = .ok c →
    Spells t.phonemes c.phonemeIds (phonemeSymbols (flattenMoras phrases)) ∧
      Spells t.accents c.accentIds (accentSymbols phrases)
  phonemesDetermined : ∀ phrases phrases' c c', encode t phrases = .ok c →
    encode t phrases' = .ok c' → c.phonemeIds = c'.phonemeIds →
    phonemeSymbols (flattenMoras phrases) = phonemeSymbols (flattenMoras phrases')
  accentsDetermined : ∀ phrases phrases' c c', encode t phrases = .ok c →
    encode t phrases' = .ok c' → c.accentIds = c'.accentIds →
    accentSymbols phrases = accentSymbols phrases'

/-- A table loaded from a file has the lists of the file, and its numbers can be read back. -/
theorem readsBack_of_load {tree : FileTree} {path : Path} {t : SymbolTable}
    (h : load tree path = .ok t) : t.DescribedBy tree path ∧ t.ReadsBack := by
  refine ⟨load_eq_ok_iff.1 h, ?_⟩
  constructor
  case entered => exact fun kind symbol => getElem?_index (t.list kind) symbol
  case known => exact fun _ _ => exists_ids_iff
  case unknown => exact fun _ _ _ => ids_eq_error_iff
  case places => exact fun _ _ _ => ids_eq_ok_iff
  case symbols => exact fun _ _ _ => spells_of_ids
  case distinct =>
    intro kind symbol symbol' n first second
    exact (id_eq_ok_iff_standsLast.1 first).symbol_eq (id_eq_ok_iff_standsLast.1 second)
  case firstFault => exact fun _ _ => encode_eq_error_iff
  case encoded => exact fun _ _ => spells_of_encode
  case phonemesDetermined =>
    intro phrases phrases' c c' encoded encoded' same
    have first := (spells_of_encode encoded).1
    rw [same] at first
    exact first.symbols_eq (spells_of_encode encoded').1
  case accentsDetermined =>
    intro phrases phrases' c c' encoded encoded' same
    have first := (spells_of_encode encoded).2
    rw [same] at first
    exact first.symbols_eq (spells_of_encode encoded').2

/-- A file that lists a phoneme twice and no mark for questions. -/
def repeatingTree : FileTree :=
  FileTree.empty.put ["symbols.json"] (.file
    "\x7b\"accents\":[\"#\",\"_\",\"[\",\"]\"],\"phonemes\":[\"a\",\"pau\",\"a\"]\x7d".toUTF8)

/-- What it lists. -/
def repeatingTable : SymbolTable := ⟨["a", "pau", "a"], ["#", "_", "[", "]"]⟩

/-- The repeated phoneme has its last place, and of an unknown phoneme and an unknown accent symbol
the phoneme is reported. -/
theorem readsBack_of_load_repeating :
    load repeatingTree ⟨"symbols.json"⟩ = .ok repeatingTable ∧
      repeatingTable.DescribedBy repeatingTree ⟨"symbols.json"⟩ ∧
      StandsLast repeatingTable.phonemes "a" 2 ∧
      Spells repeatingTable.phonemes [1, 2] ["pau", "a"] ∧
      repeatingTable.ids .phoneme ["a", "k", "x"] = .error (.unknownSymbol .phoneme "k") ∧
      encode repeatingTable [{
        moras := [⟨"カ", some "k", none, "a", 0, 0⟩], accent := 1, isQuestion := true }] =
        .error (.unknownSymbol .phoneme "k") := by
  have loaded : load repeatingTree ⟨"symbols.json"⟩ = .ok repeatingTable := by decide +kernel
  obtain ⟨described, back⟩ := readsBack_of_load loaded
  have last := (back.places .phoneme ["a"] [2]).1 rfl
  refine ⟨loaded, described, ?_, ?_, ?_, ?_⟩
  · exact (List.forall₂_cons.1 last).1
  · exact back.symbols .phoneme ["pau", "a"] [1, 2] rfl
  · exact (back.unknown ..).2 ⟨"k", by decide, rfl⟩
  · exact (back.firstFault ..).2 (.inl ⟨"k", by decide, rfl⟩)

end SymbolTable

end KanaVoice
