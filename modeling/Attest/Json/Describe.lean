import Attest.Json.Write
import Attest.Text.Quoted

/-!
# Describing JSON values in messages

Two descriptions of a value appear in error messages and debugging output:

* `Json.kindText`, the kind of a value met where another was expected:
  `null`, ``boolean `true` ``, ``integer `5` ``, ``floating point `1.5` ``
  (the double written as in JSON text), `string "…"` (quoted as
  `Text.quoted` does), `sequence` and `map`;
* `Json.debugText`, the structure of a value: `Null`, `Bool(true)`,
  `Number(1)`, `String("x")`, `Array [..]` and `Object {"k": ..}`, items
  separated by `, `.
-/

namespace Attest

namespace Json

/-- A double written in expanded decimal form, keeping `.0` on whole numbers. -/
def pointedText (x : Binary64) : String :=
  let t := x.expandedText
  if x.isFinite && !t.toList.contains '.' then t ++ ".0" else t

/-- The kind of a value, as named in type errors. -/
def kindText : Json → String
  | .null => "null"
  | .bool b => s!"boolean `{b}`"
  | .num (.int i) => s!"integer `{i}`"
  | .num (.float x) => s!"floating point `{x.jsonText}`"
  | .str s => "string " ++ Text.quoted s
  | .arr _ => "sequence"
  | .obj _ => "map"

mutual

/-- The structure of a value. -/
def debugText : Json → String
  | .null => "Null"
  | .bool b => s!"Bool({b})"
  | .num n => "Number(" ++ n.text ++ ")"
  | .str s => "String(" ++ Text.quoted s ++ ")"
  | .arr xs => "Array [" ++ debugItems xs ++ "]"
  | .obj ms => "Object \x7b" ++ debugMembers ms ++ "\x7d"

/-- Items separated by commas. -/
def debugItems : List Json → String
  | [] => ""
  | [x] => debugText x
  | x :: rest => debugText x ++ ", " ++ debugItems rest

/-- Members separated by commas. -/
def debugMembers : List (String × Json) → String
  | [] => ""
  | [(k, v)] => Text.quoted k ++ ": " ++ debugText v
  | (k, v) :: rest => Text.quoted k ++ ": " ++ debugText v ++ ", " ++ debugMembers rest

end

end Json

end Attest
