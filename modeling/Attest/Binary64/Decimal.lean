import Attest.Binary64.Basic

/-!
# Decimal digits of a double

`Binary64.shortest` finds the decimal `d * 10 ^ k` with the fewest digits that
reads back as the given double, and of two such candidates the nearer one.  It
tests, for each digit count from one to seventeen, the two neighbours of the
value on that decimal grid, in exact natural-number arithmetic; seventeen
digits always suffice for a double.

Reading goes the other way: `Binary64.ofDecimal` rounds `d * 10 ^ k` once,
correctly.
-/

namespace Attest

namespace Binary64

/-- `10 ^ k` as a fraction `num / den`. -/
def pow10Ratio (k : Int) : Nat × Nat :=
  if k ≥ 0 then (Nat.pow 10 k.toNat, 1) else (1, Nat.pow 10 (-k).toNat)

/-- Compare `d * 10 ^ k` with `x / 2` units, i.e. with `x * 2 ^ -1075`. -/
def compareDecimalHalfUnits (d : Nat) (k : Int) (x : Nat) : Ordering :=
  let (n, m) := pow10Ratio k
  compare (d * n * Nat.pow 2 1075) (x * m)

/-- `⌊(u units) / 10 ^ k⌋`. -/
def floorDecimal (u : Nat) (k : Int) : Nat :=
  let (n, m) := pow10Ratio k
  (u * m) / (n * unitsOfOne)

/-- Whether `10 ^ e ≤ u` units. -/
def pow10LeUnits (e : Int) (u : Nat) : Bool :=
  let (n, m) := pow10Ratio e
  n * unitsOfOne ≤ u * m

/-- The decimal exponent `⌊log₁₀ v⌋` of a positive magnitude of `u` units,
from the binary logarithm and corrected by exact comparisons. -/
def decimalExponent (u : Nat) : Int :=
  let l2 : Int := (Nat.log2 u : Int) - 1074
  let guess : Int := (l2 * 30103) / 100000
  let up := if pow10LeUnits (guess + 1) u then guess + 1 else guess
  let up := if pow10LeUnits (up + 1) u then up + 1 else up
  let down := if pow10LeUnits up u then up else up - 1
  if pow10LeUnits down u then down else down - 1

/-- The rounding interval of a positive finite double in half-units: the low
end, the value, the high end, and whether the ends read back (they do when the
significand is even, since a tie goes to the even neighbour). -/
def halfUnitInterval (x : Binary64) : Nat × Nat × Nat × Bool :=
  let s := x.scale
  let m := x.significand
  let gapHigh := Nat.pow 2 s
  let gapLow := if x.fractionField = 0 ∧ x.exponentField > 1 then Nat.pow 2 (s - 1) else Nat.pow 2 s
  let v := 2 * x.units
  (v - gapLow, v, v + gapHigh, m % 2 == 0)

/-- Whether `d * 10 ^ k` lies in the rounding interval of `x`. -/
def readsBackAs (x : Binary64) (d : Nat) (k : Int) : Bool :=
  let (lo, _, hi, inclusive) := halfUnitInterval x
  let cl := compareDecimalHalfUnits d k lo
  let ch := compareDecimalHalfUnits d k hi
  (cl == .gt || (inclusive && cl == .eq)) && (ch == .lt || (inclusive && ch == .eq))

/-- Of two candidates on one grid, the one nearer to the value; an exact tie
goes to the even digit string. -/
def nearerCandidate (x : Binary64) (d : Nat) (k : Int) : Nat :=
  -- distance from `d * 10 ^ k` and from `(d + 1) * 10 ^ k` to the value, both
  -- scaled by `2 ^ 1075 * den`
  let (n, m) := pow10Ratio k
  let v := 2 * x.units * m
  let a := d * n * Nat.pow 2 1075
  let b := (d + 1) * n * Nat.pow 2 1075
  let da := v - a
  let db := b - v
  if da < db then d else if db < da then d + 1 else if d % 2 = 0 then d else d + 1

/-- The shortest digit string on the grid `10 ^ (e - digits + 1)` reading back
as `x`, if any. -/
def shortestAt (x : Binary64) (e : Int) (digits : Nat) : Option (Nat × Int) :=
  let k := e - (digits : Int) + 1
  let d := floorDecimal x.units k
  let lowOk := readsBackAs x d k
  let highOk := readsBackAs x (d + 1) k
  if lowOk && highOk then some (nearerCandidate x d k, k)
  else if lowOk then some (d, k)
  else if highOk then some (d + 1, k)
  else none

/-- Drop trailing zero digits, raising the exponent. -/
def trimZeros : Nat → Nat → Int → Nat × Int
  | 0, d, k => (d, k)
  | fuel + 1, d, k => if d ≠ 0 ∧ d % 10 = 0 then trimZeros fuel (d / 10) (k + 1) else (d, k)

/-- Search the digit counts `digits, digits + 1, …` in turn. -/
def shortestFrom (x : Binary64) (e : Int) : Nat → Nat → Nat × Int
  | 0, _ => (floorDecimal x.units (e - 16), e - 16)
  | fuel + 1, digits => (shortestAt x e digits).getD (shortestFrom x e fuel (digits + 1))

/-- The shortest decimal `d * 10 ^ k` that reads back as the positive finite
double `x`, the nearer one of two; `d` has no trailing zero. -/
def shortest (x : Binary64) : Nat × Int :=
  if x.units = 0 then (0, 0)
  else
    let (d, k) := shortestFrom x (decimalExponent x.units) 17 1
    trimZeros 20 d k

/-- The correctly rounded double of `d * 10 ^ k`.  Far outside the range of
doubles the answer is known without computing the power. -/
def ofDecimal (negative : Bool) (d : Nat) (k : Int) : Binary64 :=
  if d = 0 then withSign negative zero
  else
    let size : Int := (Nat.log2 d : Int) * 30103 / 100000 + 1 + k
    if size > 311 then withSign negative infinity
    else if size < -326 then withSign negative zero
    else
      let (n, m) := pow10Ratio k
      roundSigned negative (d * n * unitsOfOne) m

end Binary64

end Attest
