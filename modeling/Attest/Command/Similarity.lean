import Attest.Binary64.Decimal

/-!
# Similar words

A mistyped option or subcommand is answered with the known words close to
it.  Closeness is the Jaro similarity of the two character sequences: with
`m` characters matched within a window of half the longer length less one,
and `t` half the number of matched characters that appear in a different
order,

  sim(a, b) = (m / |a| + m / |b| + (m - t) / m) / 3,

and `0` when nothing matches (`1` for two empty words).  A word counts as
similar when its similarity exceeds the double nearest to `0.7`.

The similarity is computed in double precision, left to right: each quotient,
each sum and the final division by three is rounded to the nearest double.
The rounding decides borderline words: for `m = 3`, `|a| = 5`, `|b| = 6` and
no transpositions the exact value is `7 / 10`, but the doubles give
`0.7000000000000001`, which counts as similar.
-/

namespace Attest

namespace Similarity

/-- A similarity: a non-negative double. -/
abbrev Score := Binary64

/-- Whether one score is at most another. -/
def Score.le (a b : Score) : Bool := a.units ≤ b.units

/-- The double nearest to `n / d`. -/
def quotient (n d : Nat) : Score := Binary64.roundUnits (n * Binary64.unitsOfOne) d

/-- The double nearest to the sum of two non-negative doubles. -/
def sum (x y : Score) : Score := Binary64.roundUnits (x.units + y.units) 1

/-- Match the characters of `a` against `b`: each character of `a` takes the
first unmatched equal character of `b` within `window` positions.  Gives the
matched flags of `b` and the matched characters of `a` in order. -/
def matchAll (b : Array Char) (window : Nat) : Nat → List Char → Array Bool → List Char →
    Array Bool × List Char
  | _, [], flags, acc => (flags, acc.reverse)
  | i, c :: rest, flags, acc =>
    let lo := i - window
    let hi := min b.size (i + window + 1)
    let hit := (List.range (hi - lo)).find? fun k =>
      let j := lo + k
      b.getD j ' ' == c && !(flags.getD j true)
    match hit with
    | some k => matchAll b window (i + 1) rest (flags.set! (lo + k) true) (c :: acc)
    | none => matchAll b window (i + 1) rest flags acc

/-- The Jaro similarity of two words. -/
def jaro (a b : String) : Score :=
  let as := a.toList
  let bs := b.toList.toArray
  if as.isEmpty && bs.isEmpty then quotient 1 1
  else if as.isEmpty || bs.isEmpty then quotient 0 1
  else
    let window := max as.length bs.size / 2 - 1
    let (flags, fromA) := matchAll bs window 0 as (Array.replicate bs.size false) []
    let fromB := (bs.toList.zip flags.toList).filterMap fun (c, f) => if f then some c else none
    let m := fromA.length
    if m = 0 then quotient 0 1
    else
      let t := ((fromA.zip fromB).filter fun (x, y) => x != y).length / 2
      let la := as.length
      let lb := bs.size
      let total := sum (sum (quotient m la) (quotient m lb)) (quotient (m - t) m)
      Binary64.roundUnits total.units 3

/-- The least score that is not close: the double nearest to `0.7`. -/
def threshold : Score := Binary64.ofDecimal false 7 (-1)

/-- Whether a score exceeds the threshold. -/
def Score.isClose (s : Score) : Bool := threshold.units < s.units

/-- The candidates close to a word, least similar first; equally similar
candidates keep their order. -/
def close (word : String) (candidates : List String) : List String :=
  let scored := candidates.filterMap fun c =>
    let s := jaro word c
    if s.isClose then some (s, c) else none
  (scored.mergeSort fun x y => x.1.le y.1).map (·.2)

/-- The candidate most similar to a word, the last of equally similar ones. -/
def closest? (word : String) (candidates : List String) : Option String :=
  (close word candidates).getLast?

end Similarity

end Attest
