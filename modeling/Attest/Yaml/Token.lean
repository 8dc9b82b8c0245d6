import Attest.Decode.Basic

/-!
# YAML tokens

The first stage of reading YAML text turns characters into tokens: stream
and document markers, the starts and ends of block and flow collections,
entry, key and value indicators, anchors, aliases, tags and scalars.  Every
token records where it starts and where it ends.

A `SyntaxError` says what went wrong and where, and optionally what was being
read at the time and where that began.  Its text follows the usual form of
YAML reader messages, for example
`found character that cannot start any token at line 3 column 1, while scanning for the next token`.
-/

namespace Attest

namespace Yaml

/-- A position in the text: the number of characters before it, and its line
and column, all counted from zero. -/
structure Mark where
  index : Nat
  line : Nat
  column : Nat
  deriving DecidableEq, Repr, Inhabited

/-- The line and column of a mark, as decoding errors report them. -/
def Mark.toDecode (m : Mark) : Decode.Mark := ⟨m.line, m.column⟩

/-- The text of a mark: `line L column C` counted from one, or the character
index at the very start. -/
def Mark.text (m : Mark) : String :=
  if m.line ≠ 0 ∨ m.column ≠ 0 then s!"line {m.line + 1} column {m.column + 1}"
  else s!"position {m.index}"

/-- Whether a mark is past the first character of the first line. -/
def Mark.isPlaced (m : Mark) : Bool := m.line ≠ 0 || m.column ≠ 0

/-- An error in YAML text. -/
inductive SyntaxError where
  /-- A character that may not occur in YAML text, at a byte offset. -/
  | forbidden (offset : Nat)
  /-- A malformed token or structure: the problem and where it was found, and
  what was being read and where that began. -/
  | malformed (problem : String) (problemMark : Mark) (context : Option (String × Mark))
  /-- An alias of an anchor that no node defined before it. -/
  | unknownAnchor (aliasMark : Mark)
  deriving DecidableEq, Repr

/-- The message of a syntax error. -/
def SyntaxError.text : SyntaxError → String
  | .forbidden offset =>
    "control characters are not allowed" ++ (if offset ≠ 0 then s!" at position {offset}" else "")
  | .malformed problem m context =>
    let located := problem ++ (if m.isPlaced then " at " ++ m.text else "")
    match context with
    | none => located
    | some (what, cm) =>
      located ++ ", " ++ what ++
        (if cm.isPlaced && (cm.line ≠ m.line || cm.column ≠ m.column) then " at " ++ cm.text else "")
  | .unknownAnchor m => "unknown anchor" ++ (if m.isPlaced then " at " ++ m.text else "")

/-- How a scalar was written. -/
abbrev ScalarStyle := Decode.ScalarStyle

/-- The kinds of token. -/
inductive TokenKind where
  | streamStart
  | streamEnd
  | versionDirective (major minor : Nat)
  | tagDirective (handle tagPrefix : String)
  | documentStart
  | documentEnd
  | blockSequenceStart
  | blockMappingStart
  | blockEnd
  | flowSequenceStart
  | flowSequenceEnd
  | flowMappingStart
  | flowMappingEnd
  | blockEntry
  | flowEntry
  | key
  | value
  | alias (name : String)
  | anchor (name : String)
  | tag (handle suffix : String)
  | scalar (text : String) (style : ScalarStyle)
  deriving DecidableEq, Repr

/-- A token with the marks of its first character and of the character after
its last. -/
structure Token where
  kind : TokenKind
  start : Mark
  stop : Mark
  deriving DecidableEq, Repr

namespace Chars

/-- A line break: line feed, carriage return, next line, line and paragraph
separators. -/
def isBreak (c : Char) : Bool :=
  c == '\n' || c == '\r' || c.toNat == 0x85 || c.toNat == 0x2028 || c.toNat == 0x2029

/-- The end of the text, which reads as a NUL character. -/
def isEnd (c : Char) : Bool := c.toNat == 0

/-- A space or a tab. -/
def isBlank (c : Char) : Bool := c == ' ' || c == '\t'

/-- A line break or the end of the text. -/
def isBreakOrEnd (c : Char) : Bool := isBreak c || isEnd c

/-- A blank, a line break or the end of the text. -/
def isBlankOrEnd (c : Char) : Bool := isBlank c || isBreakOrEnd c

/-- A character of an anchor, an alias or a directive name: a letter, a digit,
`_` or `-`. -/
def isWord (c : Char) : Bool :=
  ('0' ≤ c && c ≤ '9') || ('a' ≤ c && c ≤ 'z') || ('A' ≤ c && c ≤ 'Z') || c == '_' || c == '-'

/-- A decimal digit. -/
def isDigit (c : Char) : Bool := '0' ≤ c && c ≤ '9'

/-- The value of a hexadecimal digit. -/
def hexValue? (c : Char) : Option Nat :=
  if '0' ≤ c && c ≤ '9' then some (c.toNat - '0'.toNat)
  else if 'a' ≤ c && c ≤ 'f' then some (c.toNat - 'a'.toNat + 10)
  else if 'A' ≤ c && c ≤ 'F' then some (c.toNat - 'A'.toNat + 10)
  else none

/-- A character that YAML text may hold. -/
def isAllowed (c : Char) : Bool :=
  let n := c.toNat
  n == 0x09 || n == 0x0A || n == 0x0D || (0x20 ≤ n && n ≤ 0x7E) || n == 0x85 ||
    (0xA0 ≤ n && n ≤ 0xD7FF) || (0xE000 ≤ n && n ≤ 0xFFFD) || (0x10000 ≤ n && n ≤ 0x10FFFF)

/-- A character of a tag URI: a word character or one of `;/?:@&=+$.%!~*'()`,
and in a verbatim tag also `,[]`. -/
def isUriChar (verbatim : Bool) (c : Char) : Bool :=
  isWord c || ";/?:@&=+$.%!~*()".toList.contains c || c.toNat == 39 ||
    (verbatim && (c == ',' || c == '[' || c == ']'))

end Chars

end Yaml

end Attest
