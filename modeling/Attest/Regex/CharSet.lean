import Attest.Text.Category
import Attest.Text.Script
import Attest.Text.Property
import Attest.Text.Fold
import Attest.Text.Age

/-!
# Sets of characters

A `CharSet` is a set of code points kept as disjoint closed ranges in
increasing order, no two of them touching.  The classes of patterns are
built here: from ranges, from Unicode properties, and by the operations of
bracket classes (union, intersection, difference, symmetric difference and
complement).  A pattern that ignores case closes its classes under simple
case folding: a set then holds every character that folds like one of its
members.
-/

namespace Attest

namespace Regex

/-- The largest code point. -/
def maxCodePoint : Nat := 0x10FFFF

/-- A set of code points as sorted, disjoint, non-touching closed ranges. -/
structure CharSet where
  ranges : Array (Nat × Nat)
  deriving Inhabited

namespace CharSet

/-- Sort ranges and merge those that overlap or touch; empty ranges go. -/
def normalize (rs : List (Nat × Nat)) : Array (Nat × Nat) :=
  let sorted := (rs.filter fun r => r.1 ≤ r.2).mergeSort fun a b => a.1 ≤ b.1
  let merged := sorted.foldl (fun acc r =>
    match acc with
    | (lo, hi) :: rest => if r.1 ≤ hi + 1 then (lo, max hi r.2) :: rest else r :: acc
    | [] => [r]) []
  merged.reverse.toArray

/-- The set of the given ranges. -/
def ofRanges (rs : List (Nat × Nat)) : CharSet := ⟨normalize rs⟩

/-- No character. -/
def empty : CharSet := ⟨#[]⟩

/-- Every code point. -/
def full : CharSet := ⟨#[(0, maxCodePoint)]⟩

/-- One code point. -/
def single (n : Nat) : CharSet := ⟨#[(n, n)]⟩

/-- Whether a code point is in the set. -/
def has (s : CharSet) (n : Nat) : Bool := Text.inRangeTable s.ranges n

/-- Whether a character is in the set. -/
def contains (s : CharSet) (c : Char) : Bool := s.has c.toNat

/-- Union. -/
def union (a b : CharSet) : CharSet := ofRanges (a.ranges.toList ++ b.ranges.toList)

/-- The code points not in the set. -/
def complement (s : CharSet) : CharSet :=
  let (gaps, next) := s.ranges.foldl (fun (acc : List (Nat × Nat) × Nat) r =>
    ((if acc.2 < r.1 then (acc.2, r.1 - 1) :: acc.1 else acc.1), r.2 + 1)) ([], 0)
  ⟨(if next ≤ maxCodePoint then (next, maxCodePoint) :: gaps else gaps).reverse.toArray⟩

/-- Intersection. -/
def inter (a b : CharSet) : CharSet := complement (union (complement a) (complement b))

/-- The members of `a` that are not in `b`. -/
def diff (a b : CharSet) : CharSet := inter a (complement b)

/-- The members of exactly one of the two sets. -/
def symmDiff (a b : CharSet) : CharSet := union (diff a b) (diff b a)

/-- The simple case folding of a code point: itself when it folds to no
other. -/
def foldOf (n : Nat) : Nat :=
  match Text.simpleFoldings[Text.lastKeyAtMost Text.simpleFoldings n 0 Text.simpleFoldings.size]? with
  | some (k, v) => if k == n then v else n
  | none => n

/-- The set closed under simple case folding: every character whose folding
is the folding of a member is added. -/
def foldClosure (s : CharSet) : CharSet :=
  let touched := Text.simpleFoldings.toList.filter fun (a, b) => s.has a || s.has b
  let targets := ofRanges (touched.map fun (_, b) => (b, b))
  let orbit := Text.simpleFoldings.toList.filter fun (_, b) => targets.has b
  union s (ofRanges (orbit.flatMap fun (a, b) => [(a, a), (b, b)]))

/-- The characters equal to a code point up to case. -/
def caseless (n : Nat) : CharSet := foldClosure (single n)

/-- The code points of the runs whose value passes a test. -/
def ofRuns {α : Type} (runs : Array (Nat × α)) (keep : α → Bool) : CharSet :=
  ofRanges ((List.range runs.size).filterMap fun i =>
    match runs[i]? with
    | some (start, v) =>
      if keep v then some (start, ((runs[i + 1]?.map fun r => r.1 - 1).getD maxCodePoint)) else none
    | none => none)

/-- The characters of some general categories. -/
def ofCategories (cats : List Text.GeneralCategory) : CharSet :=
  ofRuns Text.generalCategoryRuns (cats.contains ·)

/-- The characters of a script. -/
def ofScript (i : Nat) : CharSet := ofRuns Text.scriptRuns (· == i)

/-- The characters used with a script: those whose script extensions hold it. -/
def ofScriptExtension (i : Nat) : CharSet := ofRuns Text.scriptExtensionRuns (·.contains i)

/-- The characters assigned by the version of a rank or an earlier one. -/
def ofAge (rank : Nat) : CharSet := ofRuns Text.ageRuns fun a => 0 < a && a ≤ rank

/-- The decimal digits of Unicode (category `Nd`). -/
def digits : CharSet := ofCategories [.nd]

/-- The white space of Unicode (property White_Space). -/
def spaces : CharSet := ⟨Text.whiteSpaceRanges⟩

/-- The word characters of Unicode. -/
def words : CharSet := ⟨Text.wordRanges⟩

/-- Whether a character is alphabetic in Unicode's sense. -/
def isAlphabetic (c : Char) : Bool := Text.inRangeTable Text.alphabeticRanges c.toNat

/-- Whether a character is alphabetic or numeric (categories `Nd`, `Nl`,
`No`) in Unicode's sense. -/
def isAlphanumeric (c : Char) : Bool :=
  isAlphabetic c || [Text.GeneralCategory.nd, .nl, .no].contains (Text.GeneralCategory.of c.toNat)

/-- The ASCII classes that brackets name as `[:name:]`. -/
def asciiClass? (name : String) : Option CharSet :=
  let r (lo hi : Char) : Nat × Nat := (lo.toNat, hi.toNat)
  match name with
  | "alnum" => some (ofRanges [r '0' '9', r 'A' 'Z', r 'a' 'z'])
  | "alpha" => some (ofRanges [r 'A' 'Z', r 'a' 'z'])
  | "ascii" => some (ofRanges [(0, 0x7F)])
  | "blank" => some (ofRanges [(9, 9), (32, 32)])
  | "cntrl" => some (ofRanges [(0, 0x1F), (0x7F, 0x7F)])
  | "digit" => some (ofRanges [r '0' '9'])
  | "graph" => some (ofRanges [r '!' '~'])
  | "lower" => some (ofRanges [r 'a' 'z'])
  | "print" => some (ofRanges [r ' ' '~'])
  | "punct" => some (ofRanges [r '!' '/', r ':' '@', r '[' '`', r '{' '~'])
  | "space" => some (ofRanges [(9, 13), (32, 32)])
  | "upper" => some (ofRanges [r 'A' 'Z'])
  | "word" => some (ofRanges [r '0' '9', r 'A' 'Z', r 'a' 'z', r '_' '_'])
  | "xdigit" => some (ofRanges [r '0' '9', r 'A' 'F', r 'a' 'f'])
  | _ => none

/-- The set a general category name or group name stands for, with the
three names `any`, `assigned` and `ascii`. -/
def ofCategoryName? (loose : String) : Option CharSet :=
  match loose with
  | "any" => some full
  | "assigned" => some (complement (ofCategories [.cn]))
  | "ascii" => some (ofRanges [(0, 0x7F)])
  | _ => (Text.generalCategoryNames.lookup loose).map ofCategories

/-- The set a property name alone stands for: a binary property, a general
category or a script, tried in that order.  `cf`, `lc` and `sc` are read as
categories although they also abbreviate properties. -/
def ofPropertyName? (name : String) : Option CharSet :=
  let loose := Text.looseName name
  let binary := if loose == "cf" || loose == "lc" || loose == "sc" then none
    else (Text.binaryPropertyNames.lookup loose).map fun p => (⟨p.ranges⟩ : CharSet)
  match binary with
  | some s => some s
  | none =>
    match ofCategoryName? loose with
    | some s => some s
    | none => (Text.scriptNamed? loose).map ofScript

/-- The set a property named with a value stands for (`gc=Lu`,
`Script=Greek`, `scx=Deva`, `age=3.0`); only the general category, the
script, the script extensions and the age take values. -/
def ofPropertyValue? (name value : String) : Option CharSet :=
  match Text.looseName name with
  | "gc" | "generalcategory" => ofCategoryName? (Text.looseName value)
  | "sc" | "script" => (Text.scriptNamed? (Text.looseName value)).map ofScript
  | "scx" | "scriptextensions" =>
    (Text.scriptNamed? (Text.looseName value)).map ofScriptExtension
  | "age" => (Text.ageNamed? (Text.looseName value)).map ofAge
  | _ => none

end CharSet

end Regex

end Attest
