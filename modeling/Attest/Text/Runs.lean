/-!
# Tables of code points

Character properties are kept as arrays sorted by code point.  A *range
table* lists disjoint closed ranges in increasing order; a *run table* lists
where each run of one value begins, so that a code point takes the value of
the last run that starts at or below it.  Both are searched by halving.
-/

namespace Attest

namespace Text

/-- The index of the last entry, between `lo` and `hi`, whose key is at most
`n`; `lo` when no later entry qualifies.  The entries must be sorted by key. -/
def lastKeyAtMost {α : Type} (table : Array (Nat × α)) (n lo hi : Nat) : Nat :=
  if _h : lo + 1 < hi then
    let mid := (lo + hi) / 2
    match table[mid]? with
    | some (k, _) => if k ≤ n then lastKeyAtMost table n mid hi else lastKeyAtMost table n lo mid
    | none => lo
  else lo
termination_by hi - lo

/-- The value of the run that holds `n`. -/
def runValue {α : Type} [Inhabited α] (runs : Array (Nat × α)) (n : Nat) : α :=
  match runs[lastKeyAtMost runs n 0 runs.size]? with
  | some (_, v) => v
  | none => default

/-- Whether `n` lies in one of the ranges of a range table. -/
def inRangeTable (ranges : Array (Nat × Nat)) (n : Nat) : Bool :=
  match ranges[lastKeyAtMost ranges n 0 ranges.size]? with
  | some (lo, hi) => lo ≤ n && n ≤ hi
  | none => false

/-- The loose form of a property name: without an `is` in front, without
spaces, underscores and hyphens, in lower case, and without any character
beyond ASCII.  The one name that loses all but `c` this way, `isc`, is kept
whole. -/
def looseName (name : String) : String :=
  let cs := name.toList
  let (prefixed, body) := match cs with
    | a :: b :: rest => if (a == 'i' || a == 'I') && (b == 's' || b == 'S') then (true, rest) else (false, cs)
    | _ => (false, cs)
  let kept := body.filterMap fun c =>
    if c == ' ' || c == '_' || c == '-' || c.toNat > 0x7F then none else some c.toLower
  if prefixed && kept == ['c'] then "isc" else String.ofList kept

end Text

end Attest
