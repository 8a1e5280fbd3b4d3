import KanaVoice.Json.Basic
import KanaVoice.Single.Basic
set_option autoImplicit false

/-!
# What a written number means

A number without point and exponent is an integer while it fits in 64 bits.  Every other number
is a double: its digits are gathered in 64 bits, digits that no longer fit only move the point,
and one multiplication or division by a power of ten follows, itself a double.  A number too
large for a double means nothing.  A single-precision number is the nearest one to the integer
or double.

In the other direction a single-precision number is written in its shortest decimal, positional from
`1e-6` up to `1e13` and with an exponent beyond, always with a point when positional.
-/

namespace KanaVoice

open Float.Model.UnpackedFloat (Sign)

/-- What a written number means. -/
inductive NumberValue where
  | integer (n : Int)
  | double (x : Float)

namespace Numeral

/-- The value of a decimal digit. -/
def digitValue (c : Char) : Nat := c.toNat - '0'.toNat

/-- The digits gathered onto `acc` while the result fits in 64 bits, and how many there were. -/
def gather (acc : Nat) : List Char → Nat × Nat
  | [] => (acc, 0)
  | d :: ds =>
    if 10 * acc + digitValue d < UInt64.size then
      let (value, count) := gather (10 * acc + digitValue d) ds
      (value, count + 1)
    else (acc, 0)

/-- The double nearest to a natural number. -/
def doubleOfNat (n : Nat) : Float := Single.nearestDouble .positive n 0

/-- The largest power of ten that is a double has this exponent. -/
def maxTenExponent : Nat := 308

/-- `x · 10^e`, with one rounding for each step of at most 308 powers of ten; none when it
overflows. -/
def scale? (x : Float) : Int → Option Float
  | .ofNat e =>
    if e ≤ maxTenExponent then
      let scaled := x * doubleOfNat (Nat.pow 10 e)
      if scaled.isInf then none else some scaled
    else if x == 0 then some x
    else none
  | .negSucc e =>
    if e + 1 ≤ maxTenExponent then some (x / doubleOfNat (Nat.pow 10 (e + 1)))
    else if x == 0 then some x
    else scale? (x / doubleOfNat (Nat.pow 10 maxTenExponent)) (.negSucc (e - maxTenExponent))
termination_by e => e.natAbs
decreasing_by simp only [maxTenExponent] at *; omega

/-- The double with the numeral's sign. -/
def signed (n : Numeral) (x : Float) : Float := if n.negative then -x else x

/-- The integer that a numeral without point and exponent stands for, if it fits in 64 bits; a
negative zero and a negative number below `-2^63` are doubles. -/
def integerValue (n : Numeral) (magnitude : Nat) : NumberValue :=
  if n.negative then
    if magnitude = 0 ∨ UInt64.size / 2 < magnitude then .double (-doubleOfNat magnitude)
    else .integer (-magnitude)
  else .integer magnitude

/-- What the numeral means, unless it is too large for a double. -/
def value? (n : Numeral) : Option NumberValue :=
  let (whole, wholeUsed) := gather 0 n.whole
  let skipped := n.whole.length - wholeUsed
  let (magnitude, fractionUsed) := gather whole n.fraction
  let point : Int := skipped - fractionUsed
  match n.exponent with
  | none =>
    if skipped = 0 ∧ n.fraction.isEmpty then some (n.integerValue whole)
    else (scale? (doubleOfNat magnitude) point).map fun x => .double (n.signed x)
  | some (negative, digits) =>
    let exponent := digits.foldl (fun acc d => 10 * acc + digitValue d) 0
    if UInt32.size / 2 ≤ exponent then
      if magnitude ≠ 0 ∧ ¬ negative then none else some (.double (n.signed 0))
    else
      let exponent : Int := if negative then point - exponent else point + exponent
      (scale? (doubleOfNat magnitude) exponent).map fun x => .double (n.signed x)

/-- The single-precision number a numeral means. -/
def single? (n : Numeral) : Option Float32 :=
  n.value?.map fun
    | .integer i => Single.nearest (if i < 0 then .negative else .positive) i.natAbs 0
    | .double x => Single.narrow x

/-- The integer a numeral means, if it is one. -/
def int? (n : Numeral) : Option Int :=
  match n.value? with
  | some (.integer i) => some i
  | _ => none

/-- Exponents up to which a whole number is written out. -/
def maxPoint : Int := 13

/-- The exponent down to which a fraction is written out. -/
def minPoint : Int := -5

/-- A decimal with a sign, written. -/
def ofDecimal (negative : Bool) (d : Single.Decimal) : Numeral :=
  let digits := digitsOf d.digits
  let point : Int := digits.length + d.exponent
  if 0 ≤ d.exponent ∧ point ≤ maxPoint then
    ⟨negative, digits ++ List.replicate d.exponent.toNat '0', ['0'], none⟩
  else if 0 < point ∧ point ≤ maxPoint then
    ⟨negative, digits.take point.toNat, digits.drop point.toNat, none⟩
  else if minPoint ≤ point ∧ point ≤ 0 then
    ⟨negative, ['0'], List.replicate (-point).toNat '0' ++ digits, none⟩
  else
    ⟨negative, digits.take 1, digits.drop 1, some (point < 1, digitsOf (point - 1).natAbs)⟩

/-- A finite single-precision number, written in its shortest decimal, ties to the even digit. -/
def ofSingle? (x : Float32) : Option Numeral :=
  match Single.unpack x with
  | .finite s m e _ => some (ofDecimal (s == .negative) (Single.shortest .toEven m e))
  | .zero s => some ⟨s == .negative, ['0'], ['0'], none⟩
  | _ => none

end Numeral

end KanaVoice
