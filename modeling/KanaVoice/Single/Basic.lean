set_option autoImplicit false

/-!
# Single precision, exactly

Samples, pitches and lengths are single-precision numbers, and addition, product, quotient and
order on them are those of `Float32`.  What this module adds goes through the number a bit
pattern stands for: a sign, a mantissa `m` and an exponent `e`, that is `± m · 2^e`.  Rounding
to an integer is then integer arithmetic, and a result is rounded once, to the nearest number, a
tie to the even mantissa.
-/

namespace KanaVoice.Single

open Float.Model (Format UnpackedFloat)
open Float.Model.UnpackedFloat (Sign)

/-- What a single-precision number stands for. -/
def unpack (x : Float32) : UnpackedFloat :=
  .unpack .binary32 x.toBits.toBitVec

/-- The single-precision number nearest to `± m · 2^e`. -/
def nearest (s : Sign) (m : Nat) (e : Int) : Float32 :=
  .ofBits (.ofBitVec (UnpackedFloat.pack .binary32 (.round .binary32 s m e)))

/-- The single-precision number nearest to a natural number. -/
def ofNat (n : Nat) : Float32 := nearest .positive n 0

/-- The integer nearest to `m · 2^e`; a half goes up. -/
def roundHalfUp (m : Nat) : Int → Nat
  | .ofNat k => m * Nat.pow 2 k
  | .negSucc k => (m + Nat.pow 2 k) / Nat.pow 2 (k + 1)

/-- The nearest natural number, a half going up; negative numbers and NaN give zero, and nothing
exceeds `limit`. -/
def toNatRounded (limit : Nat) (x : Float32) : Nat :=
  match unpack x with
  | .finite .positive m e _ => min (roundHalfUp m e) limit
  | .infinity .positive => limit
  | _ => 0

/-- The nearest integer, a half going away from zero; NaN gives zero, and nothing leaves
`-limit - 1 … limit`. -/
def toIntRounded (limit : Nat) (x : Float32) : Int :=
  match unpack x with
  | .finite .positive m e _ => min (roundHalfUp m e : Int) limit
  | .finite .negative m e _ => max (-(roundHalfUp m e : Int)) (-limit - 1)
  | .infinity .positive => limit
  | .infinity .negative => -limit - 1
  | _ => 0

theorem toNatRounded_le (limit : Nat) (x : Float32) : toNatRounded limit x ≤ limit := by
  unfold toNatRounded
  split <;> omega

theorem toIntRounded_mem (limit : Nat) (x : Float32) :
    -(limit : Int) - 1 ≤ toIntRounded limit x ∧ toIntRounded limit x ≤ limit := by
  unfold toIntRounded
  split <;> omega

/-- The double-precision number nearest to `± m · 2^e`. -/
def nearestDouble (s : Sign) (m : Nat) (e : Int) : Float :=
  .ofBits (.ofBitVec (UnpackedFloat.pack .binary64 (.round .binary64 s m e)))

/-- The same number in double precision. -/
def widen (x : Float32) : Float :=
  match unpack x with
  | .finite s m e _ => nearestDouble s m e
  | special => .ofBits (.ofBitVec (UnpackedFloat.pack .binary64 special))

/-- The single-precision number nearest to a double. -/
def narrow (x : Float) : Float32 :=
  match UnpackedFloat.unpack .binary64 x.toBits.toBitVec with
  | .finite s m e _ => nearest s m e
  | special => .ofBits (.ofBitVec (UnpackedFloat.pack .binary32 special))

/-! ## Powers of two

`2^x` for a single-precision `x`.  The exponent is split into the nearest multiple of 1/32 and a
remainder of at most 1/64.  The power of the multiple comes from a table of the thirty-two
powers between one and two and a shift of the exponent; the power of the remainder comes from a
cubic.  Both are taken in double precision, and their product is rounded once to single
precision. -/

/-- The doubles nearest to `2^(i/32)` for `i` below 32, as mantissas of `2^-52`. -/
def thirtySecondPowers : List Nat :=
  [0x10000000000000, 0x1059b0d3158574, 0x10b5586cf9890f, 0x111301d0125b51,
   0x1172b83c7d517b, 0x11d4873168b9aa, 0x12387a6e756238, 0x129e9df51fdee1,
   0x1306fe0a31b715, 0x1371a7373aa9cb, 0x13dea64c123422, 0x144e086061892d,
   0x14bfdad5362a27, 0x15342b569d4f82, 0x15ab07dd485429, 0x16247eb03a5585,
   0x16a09e667f3bcd, 0x171f75e8ec5f74, 0x17a11473eb0187, 0x182589994cce13,
   0x18ace5422aa0db, 0x193737b0cdc5e5, 0x19c49182a3f090, 0x1a5503b23e255d,
   0x1ae89f995ad3ad, 0x1b7f76f2fb5e47, 0x1c199bdd85529c, 0x1cb720dcef9069,
   0x1d5818dcfba487, 0x1dfc97337b9b5f, 0x1ea4afa2a490da, 0x1f50765b6e4540]

/-- The cubic that stands for `2^r` when `r` is at most 1/64 away from zero. -/
def nearOnePower (r : Float) : Float :=
  let cubic := nearestDouble .positive 0x1c6af84b912394 (-57)
  let square := nearestDouble .positive 0x1ebfce50fac4f3 (-55)
  let linear := nearestDouble .positive 0x162e42ff0c52d6 (-53)
  (cubic * r + square) * (r * r) + (linear * r + 1)

/-- The multiple of 1/32 nearest to `± m · 2^e`, in thirty-seconds; a tie goes to the even one. -/
def nearestThirtySecond (s : Sign) (m : Nat) (e : Int) : Int :=
  let whole := match e + 5 with
    | .ofNat k => m * Nat.pow 2 k
    | .negSucc k =>
      let step := Nat.pow 2 (k + 1)
      let below := m / step
      if 2 * (m % step) < step then below
      else if step < 2 * (m % step) then below + 1
      else below + below % 2
  match s with
  | .positive => whole
  | .negative => -whole

/-- Two to the power of `x`.  From 128 on the result is infinite, at -150 and below it is zero. -/
def exp2 (x : Float32) : Float32 :=
  match unpack x with
  | .notANumber => x
  | .infinity .positive => x
  | .infinity .negative => 0
  | .zero _ => 1
  | .finite s m e _ =>
    if 128 ≤ x then nearest .positive 1 128
    else if x ≤ -150 then 0
    else
      let n := nearestThirtySecond s m e
      let nSign : Sign := if n < 0 then .negative else .positive
      let r := widen x - nearestDouble nSign n.natAbs (-5)
      let scale := nearestDouble .positive (thirtySecondPowers.getD (n % 32).toNat 0) (n / 32 - 52)
      narrow (nearOnePower r * scale)

/-! ## The fewest digits that read back

A single-precision number stands for every real number that rounds to it: the reals between the
two midpoints to its neighbours, the midpoints included when its mantissa is even.  Its shortest
decimal is a point of the coarsest grid `10^k` that has a point there; of two such points the
nearer one.  An exact tie is settled by the format that shows the number. -/

/-- Which of two equally near decimals is taken. -/
inductive Tie where
  | upward
  | toEven
  deriving DecidableEq, Repr

/-- The number `digits · 10^exponent`. -/
structure Decimal where
  digits : Nat
  exponent : Int
  deriving DecidableEq, Repr

/-- A ratio of two natural numbers. -/
structure Ratio where
  num : Nat
  den : Nat

/-- `m · 2^e` in units of `10^k`. -/
def Ratio.inUnits (m : Nat) (e k : Int) : Ratio where
  num := m * Nat.pow 2 e.toNat * Nat.pow 10 (-k).toNat
  den := Nat.pow 2 (-e).toNat * Nat.pow 10 k.toNat

/-- The half-way points below and above `m · 2^e`, in quarters of `2^e`.  The number below a
power of two lies at half the distance. -/
def midpoints (m : Nat) (e : Int) : Nat × Nat :=
  (if m = 0x800000 ∧ -149 < e then 4 * m - 1 else 4 * m - 2, 4 * m + 2)

/-- The nearest multiple of `10^k` that rounds to `m · 2^e`, if there is one. -/
def onGrid? (tie : Tie) (m : Nat) (e k : Int) : Option Decimal :=
  let value := Ratio.inUnits (4 * m) (e - 2) k
  let lowest := Ratio.inUnits (midpoints m e).1 (e - 2) k
  let highest := Ratio.inUnits (midpoints m e).2 (e - 2) k
  let below := value.num / value.den
  let past := value.num % value.den
  let even := m % 2 = 0
  let belowFits := lowest.num < below * lowest.den ∨ even ∧ lowest.num = below * lowest.den
  let aboveFits :=
    (below + 1) * highest.den < highest.num ∨ even ∧ (below + 1) * highest.den = highest.num
  let nearerBelow :=
    2 * past < value.den ∨ 2 * past = value.den ∧ tie = .toEven ∧ below % 2 = 0
  if belowFits ∧ (nearerBelow ∨ ¬ aboveFits) then some ⟨below, k⟩
  else if aboveFits then some ⟨below + 1, k⟩
  else none

/-- The shortest decimal for `m · 2^e`, the mantissa and exponent of a single-precision number. -/
def shortest (tie : Tie) (m : Nat) (e : Int) : Decimal :=
  let exponents := (List.range 90).map fun i => 39 - Int.ofNat i
  (exponents.findSome? (onGrid? tie m e)).getD ⟨m * Nat.pow 2 e.toNat, 0⟩

/-- A decimal without exponent and without a needless point. -/
def Decimal.positional (d : Decimal) : List Char :=
  let digits := Nat.toDigits 10 d.digits
  let point : Int := digits.length + d.exponent
  if 0 ≤ d.exponent then digits ++ List.replicate d.exponent.toNat '0'
  else if 0 < point then digits.take point.toNat ++ '.' :: digits.drop point.toNat
  else '0' :: '.' :: (List.replicate (-point).toNat '0' ++ digits)

/-- A number in a message: its shortest decimal, ties upward, never with an exponent. -/
def display (x : Float32) : String :=
  match unpack x with
  | .notANumber => "NaN"
  | .infinity .positive => "inf"
  | .infinity .negative => "-inf"
  | .zero .positive => "0"
  | .zero .negative => "-0"
  | .finite .positive m e _ => String.ofList (shortest .upward m e).positional
  | .finite .negative m e _ => String.ofList ('-' :: (shortest .upward m e).positional)

end KanaVoice.Single
