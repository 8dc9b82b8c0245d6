import Attest.Json.Basic
import Attest.Binary64.Text

/-!
# Writing JSON text

`Json.compact` writes a value with no blank between tokens; `Json.pretty`
indents nested arrays and objects by two spaces, one member or item per line.
Members are written in the order the value lists them.

In strings, `"` and `\` are escaped, the control characters with a short
escape use it (`\b \f \n \r \t`), every other character below U+0020 becomes
`\u00xx` with lowercase hexadecimal digits, and all other characters are
written as they are.  Integers are written exactly and doubles by
`Binary64.jsonText`.
-/

namespace Attest

namespace Json

/-- The hexadecimal digit of a value below 16, lowercase. -/
def hexDigit (n : Nat) : Char :=
  if n < 10 then Char.ofNat ('0'.toNat + n) else Char.ofNat ('a'.toNat + n - 10)

/-- The escaped form of one character inside a JSON string. -/
def escapeChar (c : Char) : List Char :=
  if c = '"' then ['\\', '"']
  else if c = '\\' then ['\\', '\\']
  else if c = '\n' then ['\\', 'n']
  else if c = '\r' then ['\\', 'r']
  else if c = '\t' then ['\\', 't']
  else if c = '\x08' then ['\\', 'b']
  else if c = '\x0c' then ['\\', 'f']
  else if c.toNat < 0x20 then ['\\', 'u', '0', '0', hexDigit (c.toNat / 16), hexDigit (c.toNat % 16)]
  else [c]

/-- A string literal: the text escaped and in double quotes. -/
def quote (s : String) : String :=
  String.ofList ('"' :: (s.toList.flatMap escapeChar ++ ['"']))

/-- The text of a number. -/
def Number.text : Number → String
  | .int i => toString i
  | .float x => x.jsonText

mutual

/-- The compact text of a value. -/
def compact : Json → String
  | .null => "null"
  | .bool true => "true"
  | .bool false => "false"
  | .num n => n.text
  | .str s => quote s
  | .arr xs => "[" ++ compactItems xs ++ "]"
  | .obj ms => "\x7b" ++ compactMembers ms ++ "\x7d"

/-- Compact items separated by commas. -/
def compactItems : List Json → String
  | [] => ""
  | [x] => compact x
  | x :: rest => compact x ++ "," ++ compactItems rest

/-- Compact members separated by commas. -/
def compactMembers : List (String × Json) → String
  | [] => ""
  | [(k, v)] => quote k ++ ":" ++ compact v
  | (k, v) :: rest => quote k ++ ":" ++ compact v ++ "," ++ compactMembers rest

end

/-- Two spaces per level. -/
def indent (level : Nat) : String := String.ofList (List.replicate (2 * level) ' ')

mutual

/-- The indented text of a value whose first line is already placed at
nesting `level`. -/
def prettyAt : Nat → Json → String
  | _, .null => "null"
  | _, .bool true => "true"
  | _, .bool false => "false"
  | _, .num n => n.text
  | _, .str s => quote s
  | _, .arr [] => "[]"
  | level, .arr xs => "[\n" ++ prettyItems (level + 1) xs ++ "\n" ++ indent level ++ "]"
  | _, .obj [] => "\x7b\x7d"
  | level, .obj ms => "\x7b\n" ++ prettyMembers (level + 1) ms ++ "\n" ++ indent level ++ "\x7d"

/-- Indented items, one per line. -/
def prettyItems : Nat → List Json → String
  | _, [] => ""
  | level, [x] => indent level ++ prettyAt level x
  | level, x :: rest => indent level ++ prettyAt level x ++ ",\n" ++ prettyItems level rest

/-- Indented members, one per line. -/
def prettyMembers : Nat → List (String × Json) → String
  | _, [] => ""
  | level, [(k, v)] => indent level ++ quote k ++ ": " ++ prettyAt level v
  | level, (k, v) :: rest =>
    indent level ++ quote k ++ ": " ++ prettyAt level v ++ ",\n" ++ prettyMembers level rest

end

/-- The indented text of a value. -/
def pretty (j : Json) : String := prettyAt 0 j

end Json

end Attest
