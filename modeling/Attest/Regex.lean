import Attest.Regex.Machine
import Attest.Regex.Footprint

/-!
# Patterns

The patterns of schemas (`pattern`, the keys of `patternProperties`).  A
pattern is valid when it passes the strict check (`Attest.Regex.Strict`),
reads under the extended grammar (`Attest.Regex.Parse`), refers back only
to groups it has, looks behind only by alternatives of fixed width, and is
small enough: the automata built for it, or for the parts of it the
backtracking machine hands over, stay within their limit
(`Attest.Regex.Footprint`).

A valid pattern is compiled once into a program (`Attest.Regex.Program`)
and searched for anywhere in a text by the matching machine
(`Attest.Regex.Machine`).
-/

namespace Attest

namespace Regex

/-- The program of a pattern, or `none` when the pattern is not valid. -/
def compile? (pattern : String) : Option Program := do
  let text ← prepare pattern.toList
  let (node, groups) ← parseExtended text
  if node.maxBackref > groups || !node.lookBehindsFixed || !node.fitsEngines then none
  else some (Program.ofNode node groups)

/-- Whether a text is a valid pattern. -/
def isValid (pattern : String) : Bool := (compile? pattern).isSome

/-- Search a text for a pattern; an invalid pattern matches nothing. -/
def find (pattern text : String) : Outcome :=
  match compile? pattern with
  | some p => p.search text
  | none => .absent

/-- Whether a pattern surely matches somewhere in a text: a search that
passes the backtrack limit counts as no match. -/
def occurs (pattern text : String) : Bool := find pattern text == .found

end Regex

end Attest
