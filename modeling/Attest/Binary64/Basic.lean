/-!
# IEEE 754 binary64 values

A `Binary64` is the 64-bit word of an IEEE 754 double.  Nothing here runs the
machine's floating-point unit: every operation decodes the word into an exact
integer count of the smallest subnormal step, `2 ^ -1074`, computes the exact
rational result, and rounds it once to the nearest representable value, a tie
going to the value with an even significand.  This is the rounding rule of the
standard, so the operations agree with hardware arithmetic.

The main definitions are `Binary64.units` (the exact magnitude) and
`Binary64.roundUnits` (the rounding of a non-negative rational), from which
the arithmetic is assembled.
-/

namespace Attest

/-- The bits of an IEEE 754 double. -/
structure Binary64 where
  bits : UInt64
  deriving DecidableEq, Repr, Inhabited

namespace Binary64

/-- Number of fraction bits. -/
def fractionWidth : Nat := 52

/-- The all-ones exponent field, used by infinities and NaNs. -/
def exponentMax : Nat := 2047

/-- The sign bit. -/
def isNeg (x : Binary64) : Bool := x.bits.toNat ≥ Nat.pow 2 63

/-- The biased exponent field. -/
def exponentField (x : Binary64) : Nat := (x.bits.toNat / Nat.pow 2 52) % Nat.pow 2 11

/-- The fraction field. -/
def fractionField (x : Binary64) : Nat := x.bits.toNat % Nat.pow 2 52

/-- Finite values: the exponent field is not all ones. -/
def isFinite (x : Binary64) : Bool := x.exponentField != exponentMax

/-- NaN: all-ones exponent with a non-zero fraction. -/
def isNaN (x : Binary64) : Bool := x.exponentField == exponentMax && x.fractionField != 0

/-- Infinity of either sign. -/
def isInfinite (x : Binary64) : Bool := x.exponentField == exponentMax && x.fractionField == 0

/-- The integer significand: the fraction with the hidden bit of normal values. -/
def significand (x : Binary64) : Nat :=
  if x.exponentField = 0 then x.fractionField else Nat.pow 2 52 + x.fractionField

/-- The power of two that scales the significand, counted in steps of `2 ^ -1074`. -/
def scale (x : Binary64) : Nat :=
  if x.exponentField = 0 then 0 else x.exponentField - 1

/-- The exact magnitude of a finite value, in units of `2 ^ -1074`. -/
def units (x : Binary64) : Nat := x.significand * Nat.pow 2 x.scale

/-- One in units of `2 ^ -1074`. -/
def unitsOfOne : Nat := Nat.pow 2 1074

/-- Zero of either sign. -/
def isZero (x : Binary64) : Bool := x.exponentField == 0 && x.fractionField == 0

/-- Positive zero. -/
def zero : Binary64 := ⟨0⟩

/-- Positive infinity. -/
def infinity : Binary64 := ⟨0x7FF0000000000000⟩

/-- The quiet NaN produced by invalid operations. -/
def nan : Binary64 := ⟨0x7FF8000000000000⟩

/-- Flip the sign bit. -/
def neg (x : Binary64) : Binary64 := ⟨x.bits ^^^ 0x8000000000000000⟩

/-- Give `x` the sign `negative`. -/
def withSign (negative : Bool) (x : Binary64) : Binary64 :=
  let magnitude : Binary64 := ⟨x.bits &&& 0x7FFFFFFFFFFFFFFF⟩
  if negative then magnitude.neg else magnitude

/-- Absolute value. -/
def abs (x : Binary64) : Binary64 := withSign false x

/-- `a / b` rounded to the nearest integer, a tie going to the even one. -/
def roundHalfEven (a b : Nat) : Nat :=
  let q := a / b
  let r := a % b
  if 2 * r < b then q
  else if 2 * r > b then q + 1
  else if q % 2 = 0 then q else q + 1

/-- Pack a significand `m < 2 ^ 53` scaled by `2 ^ s` units into a non-negative
word; magnitudes beyond the largest finite value become infinity. -/
def pack (m s : Nat) : Binary64 :=
  if m < Nat.pow 2 52 then ⟨(m.toUInt64)⟩
  else if s + 1 ≥ exponentMax then infinity
  else ⟨((s + 1) * Nat.pow 2 52 + (m - Nat.pow 2 52)).toUInt64⟩

/-- The non-negative value nearest to `num / den` units, a tie going to the even
significand.  The step between neighbours is one unit below `2 ^ 53` units and
doubles with each binade above. -/
def roundUnits (num den : Nat) : Binary64 :=
  if den = 0 then infinity
  else
    let q := num / den
    let s := if q < Nat.pow 2 53 then 0 else Nat.log2 q - 52
    let m := roundHalfEven num (den * Nat.pow 2 s)
    if m = Nat.pow 2 53 then pack (Nat.pow 2 52) (s + 1) else pack m s

/-- The value nearest to a signed rational number of units. -/
def roundSigned (negative : Bool) (num den : Nat) : Binary64 :=
  withSign negative (roundUnits num den)

/-- The double nearest to a natural number. -/
def ofNat (n : Nat) : Binary64 := roundUnits (n * unitsOfOne) 1

/-- The double nearest to an integer; `0` gives positive zero. -/
def ofInt (i : Int) : Binary64 := roundSigned (decide (i < 0)) (i.natAbs * unitsOfOne) 1

/-- Product, with the special cases of the standard. -/
def mul (x y : Binary64) : Binary64 :=
  let negative := x.isNeg != y.isNeg
  if x.isNaN || y.isNaN then nan
  else if x.isInfinite || y.isInfinite then
    if x.isZero || y.isZero then nan else withSign negative infinity
  else roundSigned negative (x.units * y.units) unitsOfOne

/-- Quotient, with the special cases of the standard. -/
def div (x y : Binary64) : Binary64 :=
  let negative := x.isNeg != y.isNeg
  if x.isNaN || y.isNaN then nan
  else if x.isInfinite then
    if y.isInfinite then nan else withSign negative infinity
  else if y.isInfinite then withSign negative zero
  else if y.isZero then
    if x.isZero then nan else withSign negative infinity
  else roundSigned negative (x.units * unitsOfOne) y.units

/-- Difference of two finite values, correctly rounded. -/
def sub (x y : Binary64) : Binary64 :=
  let signed (z : Binary64) : Int := if z.isNeg then -(z.units : Int) else z.units
  let d := signed x - signed y
  roundSigned (decide (d < 0)) d.natAbs 1

/-- The remainder of truncating division, `x - trunc (x / y) * y`, which is
always exact; it has the sign of `x`. -/
def rem (x y : Binary64) : Binary64 :=
  if x.isNaN || y.isNaN || x.isInfinite || y.isZero then nan
  else if y.isInfinite then x
  else roundSigned x.isNeg (x.units % y.units) 1

/-- The fractional part `x - trunc x`, with the sign of `x`. -/
def fract (x : Binary64) : Binary64 :=
  if x.isNaN || x.isInfinite then nan
  else roundSigned x.isNeg (x.units % unitsOfOne) 1

/-- Whether a finite value is a whole number. -/
def isIntegral (x : Binary64) : Bool := x.isFinite && x.units % unitsOfOne == 0

/-- The value of a finite double as a rational `num / den` with a sign. -/
def toRatParts (x : Binary64) : Bool × Nat × Nat := (x.isNeg && !x.isZero, x.units, unitsOfOne)

/-- The integer value of a whole finite double. -/
def toInt (x : Binary64) : Int :=
  let n : Int := (x.units / unitsOfOne : Nat)
  if x.isNeg then -n else n

/-- IEEE equality: NaN equals nothing, and the two zeros are equal. -/
def eqValue (x y : Binary64) : Bool :=
  if x.isNaN || y.isNaN then false
  else if x.isZero && y.isZero then true
  else x.bits == y.bits

/-- The double of `10 ^ k`, correctly rounded. -/
def pow10 (k : Nat) : Binary64 := ofNat (Nat.pow 10 k)

end Binary64

end Attest
