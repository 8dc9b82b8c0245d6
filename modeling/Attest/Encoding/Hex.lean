import Attest.Text.Blank

/-!
# Hexadecimal byte strings

`Hex.encode` writes each byte as two lowercase hexadecimal digits.
`Hex.decode` reads a hexadecimal string back: blanks around it are ignored,
its length in bytes must be even, it must be ASCII, and each pair of
characters must read as a byte in base 16, where a pair may also be a `+`
followed by one digit.  The first failing check names the error.
-/

namespace Attest

/-- A byte string. -/
abbrev Bytes := List UInt8

namespace Hex

/-- The lowercase hexadecimal digit of a value below 16. -/
def digitChar (n : Nat) : Char :=
  if n < 10 then Char.ofNat ('0'.toNat + n) else Char.ofNat ('a'.toNat + n - 10)

/-- Two lowercase hexadecimal digits of a byte. -/
def byteChars (b : UInt8) : List Char := [digitChar (b.toNat / 16), digitChar (b.toNat % 16)]

/-- The lowercase hexadecimal text of a byte string. -/
def encode (bytes : Bytes) : String := String.ofList (bytes.flatMap byteChars)

/-- The hexadecimal text of at most the first four bytes. -/
def encodeHead (bytes : Bytes) : String := encode (bytes.take 4)

/-- Why a hexadecimal string was refused. -/
inductive DecodeError where
  /-- The trimmed text has an odd number of bytes. -/
  | oddLength (length : Nat)
  /-- The trimmed text holds a character outside ASCII. -/
  | nonAscii
  /-- The pair starting at this byte offset is not a byte in base 16. -/
  | invalidDigit (position : Nat)
  deriving DecidableEq, Repr

/-- The description of a decoding error. -/
def DecodeError.message : DecodeError → String
  | .oddLength n => s!"hex string has odd length: {n}"
  | .nonAscii => "hex string contains non-ASCII characters"
  | .invalidDigit i => s!"invalid hex at position {i}: invalid digit found in string"

/-- The value of a hexadecimal digit of either case. -/
def digitValue? (c : Char) : Option Nat :=
  if '0' ≤ c ∧ c ≤ '9' then some (c.toNat - '0'.toNat)
  else if 'a' ≤ c ∧ c ≤ 'f' then some (c.toNat - 'a'.toNat + 10)
  else if 'A' ≤ c ∧ c ≤ 'F' then some (c.toNat - 'A'.toNat + 10)
  else none

/-- The byte of a pair of characters: two digits, or `+` and one digit. -/
def pairValue? (a b : Char) : Option UInt8 :=
  match digitValue? a, digitValue? b with
  | some x, some y => some (x * 16 + y).toUInt8
  | none, some y => if a = '+' then some y.toUInt8 else none
  | _, none => none

/-- Read pairs of ASCII characters from byte offset `position` on. -/
def decodePairs : Nat → List Char → Except DecodeError Bytes
  | position, a :: b :: rest =>
    match pairValue? a b with
    | some v => (decodePairs (position + 2) rest).map (v :: ·)
    | none => .error (.invalidDigit position)
  | _, _ => .ok []

/-- Decode a hexadecimal string, ignoring blanks around it. -/
def decode (s : String) : Except DecodeError Bytes :=
  let cs := Text.trimChars s.toList
  let size : Nat := cs.foldl (fun n c => n + c.utf8Size) 0
  if size % 2 ≠ 0 then .error (.oddLength size)
  else if cs.any (fun c => c.toNat ≥ 128) then .error .nonAscii
  else decodePairs 0 cs

end Hex

end Attest
