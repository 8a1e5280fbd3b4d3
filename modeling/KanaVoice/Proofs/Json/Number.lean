import KanaVoice.Json.Number
import KanaVoice.Json.Reader
import KanaVoice.Proofs.Single.Unit
set_option autoImplicit false

/-!
# Numbers, written and read

A numeral of the grammar is read as it was written if what follows does not go on with it.  A
natural number of 64 bits means itself.  Every finite single-precision number is written in such a
numeral, and that of a zero means the zero again, with its sign.
-/

namespace KanaVoice

/-! ## The grammar -/

/-- A numeral that the grammar admits: no needless zero in front, no digits that are none, and an
exponent that is not empty. -/
structure Numeral.IsWritten (n : Numeral) : Prop where
  whole : n.whole = ['0'] ∨ ∃ d ds, n.whole = d :: ds ∧ d ≠ '0'
  wholeDigits : ∀ c ∈ n.whole, c.isDigit
  fractionDigits : ∀ c ∈ n.fraction, c.isDigit
  exponent : ∀ e ∈ n.exponent, e.2 ≠ [] ∧ ∀ c ∈ e.2, c.isDigit

namespace Json

/-- In compact form a value is followed by a comma, by a closing bracket or brace, or by nothing. -/
def EndsValue (rest : List Char) : Prop := ∀ c ∈ rest.head?, c = ',' ∨ c = ']' ∨ c = '\x7d'

theorem endsValue_nil : EndsValue [] := nofun

theorem endsValue_cons {c : Char} (rest : List Char) (h : c = ',' ∨ c = ']' ∨ c = '\x7d') :
    EndsValue (c :: rest) := by
  rintro _ ⟨⟩
  exact h

/-- The text does not go on with a digit. -/
def NoDigit (rest : List Char) : Prop := ∀ c ∈ rest.head?, ¬ c.isDigit

theorem noDigit_cons {c : Char} (rest : List Char) (h : ¬ c.isDigit) : NoDigit (c :: rest) := by
  rintro _ ⟨⟩
  exact h

theorem EndsValue.noDigit {rest : List Char} (h : EndsValue rest) : NoDigit rest := by
  intro c mem
  rcases h c mem with rfl | rfl | rfl
  · decide
  · decide
  · decide

/-! ## Runs of digits -/

variable {digits rest : List Char}

theorem takeWhile_isDigit (h : ∀ c ∈ digits, c.isDigit) (stops : NoDigit rest) :
    (digits ++ rest).takeWhile Char.isDigit = digits := by
  rw [List.takeWhile_append_of_pos h]
  cases rest with
  | nil => exact List.append_nil digits
  | cons c rest => rw [List.takeWhile_cons_of_neg (stops c rfl), List.append_nil]

theorem dropWhile_isDigit (h : ∀ c ∈ digits, c.isDigit) (stops : NoDigit rest) :
    (digits ++ rest).dropWhile Char.isDigit = rest := by
  rw [List.dropWhile_append_of_pos h]
  cases rest with
  | nil => rfl
  | cons c rest => exact List.dropWhile_cons_of_neg (stops c rfl)

/-! ## Parts of a numeral -/

theorem readWhole_append
    (h : digits = ['0'] ∨ ∃ d ds, digits = d :: ds ∧ d ≠ '0')
    (all : ∀ c ∈ digits, c.isDigit) (stops : NoDigit rest) :
    readWhole (digits ++ rest) = some (digits, rest) := by
  rcases h with rfl | ⟨d, ds, rfl, nonzero⟩
  · rfl
  · unfold readWhole
    split
    case h_1 same =>
      injection same with same _
      exact absurd same nonzero
    case h_2 =>
      rw [takeWhile_isDigit all stops, dropWhile_isDigit all stops]
      rfl

/-- Digits behind a point as they are written. -/
def fractionChars (digits : List Char) : List Char :=
  if digits.isEmpty then [] else '.' :: digits

theorem readFraction_append (all : ∀ c ∈ digits, c.isDigit) (stops : NoDigit rest)
    (noPoint : ∀ c ∈ rest.head?, c ≠ '.') :
    readFraction (fractionChars digits ++ rest) = some (digits, rest) := by
  cases digits with
  | nil =>
    show readFraction rest = _
    unfold readFraction
    split
    case h_1 => exact absurd rfl (noPoint _ rfl)
    case h_2 => rfl
  | cons d ds =>
    show readFraction ('.' :: (d :: ds ++ rest)) = _
    rw [readFraction, takeWhile_isDigit all stops, dropWhile_isDigit all stops]
    rfl

theorem readExponentDigits_append (negative : Bool) (nonempty : digits ≠ [])
    (all : ∀ c ∈ digits, c.isDigit) (stops : NoDigit rest) :
    readExponentDigits negative (digits ++ rest) = some (some (negative, digits), rest) := by
  unfold readExponentDigits
  rw [takeWhile_isDigit all stops, dropWhile_isDigit all stops, if_neg]
  simpa using nonempty

/-- An exponent as it is written. -/
def exponentChars : Option (Bool × List Char) → List Char
  | none => []
  | some (negative, digits) => 'e' :: (if negative then '-' else '+') :: digits

theorem readExponent_append {exponent : Option (Bool × List Char)}
    (h : ∀ e ∈ exponent, e.2 ≠ [] ∧ ∀ c ∈ e.2, c.isDigit) (ends : EndsValue rest) :
    readExponent (exponentChars exponent ++ rest) = some (exponent, rest) := by
  cases exponent with
  | none =>
    show readExponent rest = _
    cases rest with
    | nil => rfl
    | cons c rest =>
      rcases ends c rfl with rfl | rfl | rfl
      · rfl
      · rfl
      · rfl
  | some e =>
    obtain ⟨negative, digits⟩ := e
    obtain ⟨nonempty, all⟩ := h _ rfl
    have read := readExponentDigits_append negative nonempty all ends.noDigit
    cases negative
    · exact read
    · exact read

/-! ## Numerals -/

theorem chars_numeral (n : Numeral) :
    n.chars = (if n.negative then ['-'] else []) ++
      (n.whole ++ (fractionChars n.fraction ++ exponentChars n.exponent)) := by
  show (if n.negative then ['-'] else []) ++ n.whole ++ fractionChars n.fraction ++
    exponentChars n.exponent = _
  rw [List.append_assoc, List.append_assoc]

theorem stops_exponentChars (exponent : Option (Bool × List Char)) (ends : EndsValue rest) :
    NoDigit (exponentChars exponent ++ rest) ∧
      ∀ c ∈ (exponentChars exponent ++ rest).head?, c ≠ '.' := by
  cases exponent with
  | none =>
    refine ⟨ends.noDigit, fun c mem => ?_⟩
    rcases ends c mem with rfl | rfl | rfl
    · decide
    · decide
    · decide
  | some e =>
    refine ⟨noDigit_cons _ (by decide), ?_⟩
    rintro _ ⟨⟩
    decide

theorem noDigit_fractionChars (digits : List Char) (stops : NoDigit rest) :
    NoDigit (fractionChars digits ++ rest) := by
  cases digits with
  | nil => exact stops
  | cons d ds => exact noDigit_cons _ (by decide)

/-- A numeral starts with a digit, its sign aside. -/
theorem exists_whole_eq_cons {n : Numeral} (h : n.IsWritten) :
    ∃ d ds, n.whole = d :: ds ∧ d.isDigit := by
  have nonempty : n.whole ≠ [] := by
    rcases h.whole with zero | ⟨d, ds, same, -⟩
    · simp [zero]
    · simp [same]
  obtain ⟨d, ds, same⟩ := List.exists_cons_of_ne_nil nonempty
  exact ⟨d, ds, same, h.wholeDigits d (by simp [same])⟩

/-- A numeral is read as it was written. -/
theorem readNumeral_chars {n : Numeral} (h : n.IsWritten) (ends : EndsValue rest) :
    readNumeral (n.chars ++ rest) = some (n, rest) := by
  obtain ⟨stops, noPoint⟩ := stops_exponentChars n.exponent ends
  have whole := readWhole_append h.whole h.wholeDigits (noDigit_fractionChars n.fraction stops)
  have fraction := readFraction_append h.fractionDigits stops noPoint
  have exponent := readExponent_append h.exponent ends
  obtain ⟨d, ds, same, digit⟩ := exists_whole_eq_cons h
  rw [chars_numeral, List.append_assoc, List.append_assoc, List.append_assoc]
  unfold readNumeral
  cases sign : n.negative with
  | true =>
    simp only [if_true, List.singleton_append, whole, fraction, exponent, Option.bind_eq_bind,
      Option.bind_some, ← sign]
    rfl
  | false =>
    simp only [Bool.false_eq_true, if_false, List.nil_append]
    split
    case h_1 minus =>
      rw [same] at minus
      injection minus with minus _
      rw [minus] at digit
      exact absurd digit (by decide)
    case h_2 =>
      simp only [whole, fraction, exponent, Option.bind_eq_bind, Option.bind_some, ← sign]
      rfl

end Json

namespace Numeral

/-! ## Natural numbers -/

theorem isDigit_digitsOf (n : Nat) : ∀ c ∈ digitsOf n, c.isDigit :=
  fun _ => Nat.isDigit_of_mem_toDigits (by decide) (by decide)

theorem digitsOf_eq_cons {n : Nat} (h : n ≠ 0) : ∃ d ds, digitsOf n = d :: ds ∧ d ≠ '0' := by
  induction n using Nat.strongRecOn with
  | ind n ih =>
    unfold digitsOf
    by_cases small : n < 10
    · refine ⟨n.digitChar, [], Nat.toDigits_of_lt_base small, ?_⟩
      have digits : ∀ k < 10, k ≠ 0 → k.digitChar ≠ '0' := by decide
      exact digits n small h
    · obtain ⟨d, ds, same, nonzero⟩ := ih (n / 10) (by omega) (by omega)
      refine ⟨d, ds ++ [(n % 10).digitChar], ?_, nonzero⟩
      rw [Nat.toDigits_of_base_le (by decide) (by omega), ← List.cons_append, ← same]
      rfl

theorem isWritten_ofNat (n : Nat) : (ofNat n).IsWritten where
  whole := by
    by_cases zero : n = 0
    · exact .inl (by rw [zero]; rfl)
    · exact .inr (digitsOf_eq_cons zero)
  wholeDigits := isDigit_digitsOf n
  fractionDigits := nofun
  exponent := nofun

theorem le_ofDigitChars (digits : List Char) (acc : Nat) :
    acc ≤ Nat.ofDigitChars 10 digits acc := by
  have power : 0 < 10 ^ digits.length := Nat.pow_pos (by decide)
  have grown : acc ≤ 10 ^ digits.length * acc := Nat.le_mul_of_pos_left acc power
  rw [Nat.ofDigitChars_eq_ofDigitChars_zero]
  omega

/-- Digits are gathered to the end if their number fits. -/
theorem gather_eq {digits : List Char} {acc : Nat}
    (fits : Nat.ofDigitChars 10 digits acc < UInt64.size) :
    gather acc digits = (Nat.ofDigitChars 10 digits acc, digits.length) := by
  induction digits generalizing acc with
  | nil => rfl
  | cons d ds ih =>
    rw [Nat.ofDigitChars_cons] at fits ⊢
    have step : 10 * acc + digitValue d < UInt64.size := (le_ofDigitChars ds _).trans_lt fits
    have later : gather (10 * acc + digitValue d) ds = _ := ih fits
    rw [gather, if_pos step, later]
    rfl

/-- Digits without a point or an exponent mean an integer if the number fits. -/
theorem value?_digitsOf (negative : Bool) {n : Nat} (fits : n < UInt64.size) :
    (⟨negative, digitsOf n, [], none⟩ : Numeral).value? =
      some (integerValue ⟨negative, digitsOf n, [], none⟩ n) := by
  have value : Nat.ofDigitChars 10 (digitsOf n) 0 = n := Nat.ofDigitChars_ten_toDigits
  have gathered : gather 0 (digitsOf n) = (n, (digitsOf n).length) := by
    rw [gather_eq (by rwa [value]), value]
  unfold value?
  simp only [gathered, Nat.sub_self]
  rfl

theorem int?_ofNat {n : Nat} (fits : n < UInt64.size) : (ofNat n).int? = some (n : Int) := by
  unfold int? ofNat
  rw [value?_digitsOf false fits]
  rfl

/-! ## Integers -/

theorem isWritten_ofInt (n : Int) : (ofInt n).IsWritten where
  whole := (isWritten_ofNat n.natAbs).whole
  wholeDigits := isDigit_digitsOf n.natAbs
  fractionDigits := nofun
  exponent := nofun

theorem int?_ofInt {n : Int} (low : -(UInt64.size / 2 : Nat) ≤ n) (high : n < UInt64.size) :
    (ofInt n).int? = some n := by
  unfold int? ofInt
  rw [value?_digitsOf _ (by omega)]
  unfold integerValue
  by_cases negative : n < 0
  · have inRange : ¬ (n.natAbs = 0 ∨ UInt64.size / 2 < n.natAbs) := by omega
    have value : -(n.natAbs : Int) = n := by omega
    simp only [negative, decide_true, if_true, if_neg inRange, value]
  · have value : (n.natAbs : Int) = n := by omega
    simp only [negative, decide_false, Bool.false_eq_true, if_false, value]

/-! ## Decimals -/

theorem isWritten_ofDecimal (negative : Bool) {d : Single.Decimal} (h : d.digits ≠ 0) :
    (ofDecimal negative d).IsWritten := by
  obtain ⟨first, others, same, nonzero⟩ := digitsOf_eq_cons h
  have all := isDigit_digitsOf d.digits
  have zero : ∀ c ∈ ['0'], c.isDigit := by simp
  have zeros (n : Nat) : ∀ c ∈ List.replicate n '0', c.isDigit := by
    intro c mem
    rw [List.eq_of_mem_replicate mem]
    decide
  unfold ofDecimal
  simp only []
  split_ifs with whole mixed fraction
  · exact {
      whole := .inr ⟨first, _, by rw [same]; rfl, nonzero⟩
      wholeDigits := List.forall_mem_append.2 ⟨all, zeros _⟩
      fractionDigits := zero
      exponent := nofun }
  · -- The point lies behind the first digit, so this one stands before it.
    obtain ⟨k, more⟩ : ∃ k, ((digitsOf d.digits).length + d.exponent).toNat = k + 1 :=
      ⟨((digitsOf d.digits).length + d.exponent).toNat - 1, by omega⟩
    exact {
      whole := .inr ⟨first, others.take k, by rw [more, same]; rfl, nonzero⟩
      wholeDigits := fun c mem => all c (List.mem_of_mem_take mem)
      fractionDigits := fun c mem => all c (List.mem_of_mem_drop mem)
      exponent := nofun }
  · exact {
      whole := .inl rfl
      wholeDigits := zero
      fractionDigits := List.forall_mem_append.2 ⟨zeros _, all⟩
      exponent := nofun }
  · exact {
      whole := .inr ⟨first, [], by rw [same]; rfl, nonzero⟩
      wholeDigits := fun c mem => all c (List.mem_of_mem_take mem)
      fractionDigits := fun c mem => all c (List.mem_of_mem_drop mem)
      exponent := by
        rintro _ ⟨⟩
        exact ⟨Nat.toDigits_ne_nil, isDigit_digitsOf _⟩ }

end Numeral

/-! ## Single precision -/

namespace Single

theorem digits_onGrid? {tie : Tie} {m : Nat} {e k : Int} {d : Decimal} (pos : 0 < m)
    (h : onGrid? tie m e k = some d) : d.digits ≠ 0 := by
  have lowest : 0 < (Ratio.inUnits (midpoints m e).1 (e - 2) k).num := by
    have middle : 0 < (midpoints m e).1 := by
      unfold midpoints
      split
      · exact Nat.sub_pos_of_lt (by omega)
      · exact Nat.sub_pos_of_lt (by omega)
    unfold Ratio.inUnits
    exact Nat.mul_pos (Nat.mul_pos middle (Nat.pow_pos (by decide))) (Nat.pow_pos (by decide))
  unfold onGrid? at h
  simp only [] at h
  split_ifs at h with below above
  · cases h
    intro zero
    simp only [] at zero
    simp only [zero, Nat.zero_mul] at below
    omega
  · cases h
    exact Nat.succ_ne_zero _

theorem digits_findSome? (tie : Tie) {m : Nat} (e : Int) (pos : 0 < m) (exponents : List Int)
    {spare : Decimal} (h : spare.digits ≠ 0) :
    ((exponents.findSome? (onGrid? tie m e)).getD spare).digits ≠ 0 := by
  cases found : exponents.findSome? (onGrid? tie m e) with
  | some d =>
    obtain ⟨k, -, onGrid⟩ := List.exists_of_findSome?_eq_some found
    exact digits_onGrid? pos onGrid
  | none => exact h

theorem digits_shortest (tie : Tie) {m : Nat} (e : Int) (pos : 0 < m) :
    (shortest tie m e).digits ≠ 0 := by
  apply digits_findSome? tie e pos
  exact (Nat.mul_pos pos (Nat.pow_pos (by decide))).ne'

end Single

/-- The shortest decimal of a number that has one: neither a zero nor an infinity nor NaN. -/
def Numeral.shortest? (x : Float32) : Option Numeral :=
  match Single.unpack x with
  | .finite s m e _ => some (ofDecimal (s == .negative) (Single.shortest .toEven m e))
  | _ => none

/-- The shortest decimal of the number, if it has one, means the number. -/
def Single.ReadsBack (x : Float32) : Prop :=
  ∀ n ∈ Numeral.shortest? x, n.single? = some x

instance (x : Float32) : Decidable (Single.ReadsBack x) :=
  inferInstanceAs (Decidable (∀ n ∈ Numeral.shortest? x, n.single? = some x))

theorem Numeral.ofSingle?_eq_none_iff {x : Float32} :
    ofSingle? x = none ↔ x.isFinite = false := by
  have finite : x.isFinite = (Single.unpack x).isFinite := rfl
  rw [finite]
  unfold ofSingle?
  cases Single.unpack x <;> simp [Float.Model.UnpackedFloat.isFinite]

/-- A zero has no shortest decimal, but it is read back with its sign. -/
theorem Numeral.single?_zero {x : Float32} {s : Float.Model.UnpackedFloat.Sign}
    (h : Single.unpack x = .zero s) :
    (⟨s == .negative, ['0'], ['0'], none⟩ : Numeral).single? = some x := by
  have packed : x = .ofModel (.pack (.zero s)) := by
    have unpacked : x.toModel.unpack = .zero s := h
    rw [← unpacked, Single.pack_unpack_model]
  have reads : ∀ s : Float.Model.UnpackedFloat.Sign,
      (⟨s == .negative, ['0'], ['0'], none⟩ : Numeral).single? =
        some (.ofModel (.pack (.zero s))) := by
    intro s
    cases s
    · decide +kernel
    · decide +kernel
  rw [packed, reads]

/-- A finite number is written in a numeral of the grammar that means it. -/
theorem Numeral.of_ofSingle? {x : Float32} {n : Numeral} (reads : Single.ReadsBack x)
    (h : ofSingle? x = some n) : n.IsWritten ∧ n.single? = some x := by
  unfold ofSingle? at h
  split at h
  case h_1 s m e pos same =>
    have shortest : shortest? x = some n := by
      unfold shortest?
      rw [same]
      exact h
    cases h
    exact ⟨isWritten_ofDecimal _ (Single.digits_shortest .toEven e pos), reads _ shortest⟩
  case h_2 s same =>
    cases h
    refine ⟨⟨.inl rfl, ?_, ?_, nofun⟩, single?_zero same⟩
    · simp
    · simp
  case h_3 => cases h

end KanaVoice
