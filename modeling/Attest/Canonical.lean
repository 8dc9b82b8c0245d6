import Attest.Json.Write

/-!
# Canonical JSON

Signed payloads are written in one canonical way: no blanks, strings escaped
as `Json.quote` does, integers exact, and the members of each object ordered
by the bytes of their written names, quotes and escapes included (so a name
written with an escape, such as a control character, sorts after the space,
and a name sorts after its own extension by `!`).  Doubles are refused: their text is where independent writers
disagree, so a claim that needs a fraction has to travel as a string.  The
double reported is the first one met walking the value depth first, array
items in order and members in name order.
-/

namespace Attest

/-- Why a value has no canonical form. -/
inductive CanonicalError where
  | floatRejected (x : Binary64)
  deriving DecidableEq

/-- The message of a canonical-form error. -/
def CanonicalError.message : CanonicalError → String
  | .floatRejected x =>
    "float values are not permitted in canonical claim payloads; use string or integer: " ++
      x.expandedText

namespace Json

mutual

/-- The value with every object's members sorted by name; of two members with
one name the later wins. -/
def sorted : Json → Json
  | .arr xs => .arr (sortedItems xs)
  | .obj ms => .obj (Members.ofList (sortedMembers ms))
  | j => j

/-- Sort inside each item. -/
def sortedItems : List Json → List Json
  | [] => []
  | x :: rest => sorted x :: sortedItems rest

/-- Sort inside each member value. -/
def sortedMembers : List (String × Json) → List (String × Json)
  | [] => []
  | (k, v) :: rest => (k, sorted v) :: sortedMembers rest

end

mutual

/-- The first double in depth-first order. -/
def firstFloat? : Json → Option Binary64
  | .num (.float x) => some x
  | .arr xs => firstFloatItems? xs
  | .obj ms => firstFloatMembers? ms
  | _ => none

/-- The first double among items. -/
def firstFloatItems? : List Json → Option Binary64
  | [] => none
  | x :: rest => (firstFloat? x).or (firstFloatItems? rest)

/-- The first double among member values. -/
def firstFloatMembers? : List (String × Json) → Option Binary64
  | [] => none
  | (_, v) :: rest => (firstFloat? v).or (firstFloatMembers? rest)

end

/-- Join texts with commas. -/
def joinCommas : List String → String
  | [] => ""
  | [x] => x
  | x :: rest => x ++ "," ++ joinCommas rest

/-- Order written members by their written names. -/
def orderMembers (ms : List (String × String)) : List (String × String) :=
  ms.mergeSort (fun a b => decide (a.1 ≤ b.1))

mutual

/-- The canonical text of a value without doubles. -/
def canonicalText : Json → String
  | .arr xs => "[" ++ joinCommas (canonicalItems xs) ++ "]"
  | .obj ms => "\x7b" ++ joinCommas ((orderMembers (canonicalMembers ms)).map fun m => m.1 ++ ":" ++ m.2) ++ "\x7d"
  | j => compact j

/-- The canonical texts of items. -/
def canonicalItems : List Json → List String
  | [] => []
  | x :: rest => canonicalText x :: canonicalItems rest

/-- Written names with the canonical texts of their values. -/
def canonicalMembers : List (String × Json) → List (String × String)
  | [] => []
  | (k, v) :: rest => (quote k, canonicalText v) :: canonicalMembers rest

end

/-- The canonical text of a value, or the first double, in name order, that
prevents it. -/
def canonical (j : Json) : Except CanonicalError String :=
  match firstFloat? (sorted j) with
  | some x => .error (.floatRejected x)
  | none => .ok (canonicalText j)

end Json

end Attest
