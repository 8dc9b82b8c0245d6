import Attest.Text.Combining

/-!
# Quoted text

`Text.quoted` writes a text between double quotes so that every character can
be seen: the quote and the backslash are escaped, NUL, tab, carriage return
and line feed get their short escapes (`\0 \t \r \n`), and a character that is
not printable, or that extends the grapheme before it, is written
`\u{h…}` with its code point in lowercase hexadecimal without padding.  All
other characters, the apostrophe included, stand as they are.
-/

namespace Attest

namespace Text

/-- Lowercase hexadecimal digits of a number, without padding. -/
def hexDigits (n : Nat) : List Char := Nat.toDigits 16 n

/-- The quoted form of one character. -/
def quoteChar (c : Char) : List Char :=
  if c = '\x00' then ['\\', '0']
  else if c = '\t' then ['\\', 't']
  else if c = '\r' then ['\\', 'r']
  else if c = '\n' then ['\\', 'n']
  else if c = '\\' then ['\\', '\\']
  else if c = '"' then ['\\', '"']
  else if isExtending c || !isPrintable c then ['\\', 'u', '{'] ++ hexDigits c.toNat ++ ['}']
  else [c]

/-- A text between double quotes, with the escapes above. -/
def quoted (s : String) : String :=
  String.ofList ('"' :: (s.toList.flatMap quoteChar ++ ['"']))

/-- The quoted form of an optional text: `Some("…")` or `None`. -/
def quotedOption (s : Option String) : String :=
  match s with
  | some t => "Some(" ++ quoted t ++ ")"
  | none => "None"

end Text

end Attest
