import Attest.Binary64.Decimal

/-!
# Writing a double as text

Both forms start from the shortest digits of `Binary64.shortest` and differ
only in layout, which a `Layout` record fixes:

* `Layout.json`, the number text of JSON documents: positional between
  `10 ^ -5` and `10 ^ 16`, a whole number keeps `.0`, and beyond that range
  the scientific form `d.ddde+XX` / `d.ddde-XX`;
* `Layout.expanded`, the plain decimal form: never an exponent, every digit
  written out, and no `.0` on whole numbers.
-/

namespace Attest

namespace Binary64

/-- How a double is laid out once its shortest digits are known. -/
structure Layout where
  /-- Whole numbers keep a trailing `.0`. -/
  pointZero : Bool
  /-- Positional notation is used when the decimal point position `p`
  (value = `0.ddd × 10 ^ p`) satisfies `low < p ≤ high`; `none` means always. -/
  positional : Option (Int × Int)
  /-- Text of zero before its sign. -/
  zeroText : String

/-- The JSON number layout. -/
def Layout.json : Layout := ⟨true, some (-5, 16), "0.0"⟩

/-- The expanded decimal layout. -/
def Layout.expanded : Layout := ⟨false, none, "0"⟩

/-- `n` zero characters. -/
def zeros (n : Nat) : String := String.ofList (List.replicate n '0')

/-- The decimal digits of a natural number. -/
def digitText (d : Nat) : String := String.ofList (Nat.toDigits 10 d)

/-- Lay out digits `ds` (no trailing zero) with decimal point position `p`. -/
def positionalText (layout : Layout) (ds : String) (p : Int) : String :=
  let n := ds.length
  if p ≥ (n : Int) then
    ds ++ zeros (p.toNat - n) ++ (if layout.pointZero then ".0" else "")
  else if p > 0 then
    String.ofList (ds.toList.take p.toNat) ++ "." ++ String.ofList (ds.toList.drop p.toNat)
  else
    "0." ++ zeros (-p).toNat ++ ds

/-- Scientific form `d.ddd e±X`. -/
def scientificText (ds : String) (p : Int) : String :=
  let e := p - 1
  let mantissa :=
    match ds.toList with
    | [c] => String.singleton c
    | c :: rest => String.singleton c ++ "." ++ String.ofList rest
    | [] => "0"
  mantissa ++ "e" ++ (if e < 0 then "-" else "+") ++ digitText e.natAbs

/-- The text of a finite double under a layout; infinities and NaN are written
`inf`, `-inf` and `NaN`. -/
def render (layout : Layout) (x : Binary64) : String :=
  let sign := if x.isNeg then "-" else ""
  if x.isNaN then "NaN"
  else if x.isInfinite then sign ++ "inf"
  else if x.isZero then sign ++ layout.zeroText
  else
    let (d, k) := shortest x
    let ds := digitText d
    let p := (ds.length : Int) + k
    let body :=
      match layout.positional with
      | none => positionalText layout ds p
      | some (low, high) =>
        if low < p ∧ p ≤ high then positionalText layout ds p else scientificText ds p
    sign ++ body

/-- The JSON number text of a double. -/
def jsonText (x : Binary64) : String := render Layout.json x

/-- The expanded decimal text of a double. -/
def expandedText (x : Binary64) : String := render Layout.expanded x

end Binary64

end Attest
