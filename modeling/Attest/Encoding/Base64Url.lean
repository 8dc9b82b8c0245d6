import Attest.Encoding.Hex

/-!
# Base64url

The URL-safe alphabet of RFC 4648 §5 (`A–Z a–z 0–9 - _`), without padding:
every three bytes become four characters, and a final one or two bytes become
two or three characters.  Decoding accepts exactly the texts encoding writes:
the unused low bits of a final partial group must be zero.
-/

namespace Attest

namespace Base64Url

/-- The character of a 6-bit value. -/
def charOf (n : Nat) : Char :=
  if n < 26 then Char.ofNat ('A'.toNat + n)
  else if n < 52 then Char.ofNat ('a'.toNat + n - 26)
  else if n < 62 then Char.ofNat ('0'.toNat + n - 52)
  else if n = 62 then '-' else '_'

/-- The 6-bit value of a character of the alphabet. -/
def valueOf? (c : Char) : Option Nat :=
  if 'A' ≤ c ∧ c ≤ 'Z' then some (c.toNat - 'A'.toNat)
  else if 'a' ≤ c ∧ c ≤ 'z' then some (c.toNat - 'a'.toNat + 26)
  else if '0' ≤ c ∧ c ≤ '9' then some (c.toNat - '0'.toNat + 52)
  else if c = '-' then some 62
  else if c = '_' then some 63
  else none

/-- Encode groups of three bytes. -/
def encodeChars : Bytes → List Char
  | a :: b :: c :: rest =>
    let n := a.toNat * 65536 + b.toNat * 256 + c.toNat
    charOf (n / 262144) :: charOf (n / 4096 % 64) :: charOf (n / 64 % 64) :: charOf (n % 64) ::
      encodeChars rest
  | [a, b] =>
    let n := a.toNat * 65536 + b.toNat * 256
    [charOf (n / 262144), charOf (n / 4096 % 64), charOf (n / 64 % 64)]
  | [a] =>
    let n := a.toNat * 65536
    [charOf (n / 262144), charOf (n / 4096 % 64)]
  | [] => []

/-- The unpadded base64url text of a byte string. -/
def encode (bytes : Bytes) : String := String.ofList (encodeChars bytes)

/-- Decode groups of four characters. -/
def decodeChars : List Char → Option Bytes
  | a :: b :: c :: d :: rest => do
    let n := (← valueOf? a) * 262144 + (← valueOf? b) * 4096 + (← valueOf? c) * 64 + (← valueOf? d)
    let tail ← decodeChars rest
    some ((n / 65536).toUInt8 :: (n / 256 % 256).toUInt8 :: (n % 256).toUInt8 :: tail)
  | [a, b, c] => do
    let last ← valueOf? c
    let n := (← valueOf? a) * 262144 + (← valueOf? b) * 4096 + last * 64
    if last % 4 = 0 then some [(n / 65536).toUInt8, (n / 256 % 256).toUInt8] else none
  | [a, b] => do
    let last ← valueOf? b
    let n := (← valueOf? a) * 262144 + last * 4096
    if last % 16 = 0 then some [(n / 65536).toUInt8] else none
  | [_] => none
  | [] => some []

/-- The bytes of an unpadded base64url text. -/
def decode (s : String) : Option Bytes := decodeChars s.toList

end Base64Url

end Attest
