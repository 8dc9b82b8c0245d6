import Attest.Encoding.Hex

/-!
# UUIDs

A `Uuid` is a 128-bit value (RFC 9562).  `Uuid.parse` accepts four text
forms, with hexadecimal digits of either case:

* simple: 32 digits;
* hyphenated: groups of 8, 4, 4, 4 and 12 digits joined by `-`;
* braced: a hyphenated UUID between `{` and `}`;
* URN: `urn:uuid:` in any case, then a hyphenated UUID.

A text that is none of these is diagnosed.  One longer than the longest form
(45 bytes) has the wrong length.  One with the size and frame of a hyphenated
form is judged by its 36-byte hyphenated part alone, positions counted in that
part.  Any other is scanned once more, prefix removed, positions counted in the
whole text: the first character that is neither a digit nor `-` is reported at
its byte offset; otherwise a text without hyphens and without prefix has the
wrong length, a text with other than four hyphens the wrong number of groups,
and otherwise the first group of the wrong length is named.
-/

namespace Attest

/-- A 128-bit UUID. -/
structure Uuid where
  value : BitVec 128
  deriving DecidableEq, Repr

namespace Uuid

/-- The UUID of the low 128 bits of a number. -/
def ofNat (v : Nat) : Uuid := ⟨BitVec.ofNat 128 v⟩

/-- Why a text is not a UUID. -/
inductive ParseError where
  | character (c : Char) (index : Nat)
  | length (length : Nat)
  | groupCount (count : Nat)
  | groupLength (group : Nat) (length : Nat)
  deriving DecidableEq, Repr

/-- The expected length of each hyphenated group. -/
def groupWidths : List Nat := [8, 4, 4, 4, 12]

/-- Where each hyphenated group starts. -/
def groupStarts : List Nat := [0, 9, 14, 19, 24]

/-- The description of a parse error. -/
def ParseError.message : ParseError → String
  | .character c i => s!"invalid character: found `{String.singleton c}` at {i}"
  | .length n => s!"invalid length: found {n}"
  | .groupCount n => s!"invalid group count: expected 5, found {n}"
  | .groupLength g n => s!"invalid group length in group {g}: expected {groupWidths.getD g 0}, found {n}"

/-- The value of hexadecimal digits, if they all are digits. -/
def hexValue? (cs : List Char) : Option Nat :=
  cs.foldl (fun acc c => acc.bind fun v => (Hex.digitValue? c).map (v * 16 + ·)) (some 0)

/-- A hyphenated UUID of exactly 36 characters. -/
def parseHyphenated (cs : List Char) : Option Uuid :=
  if cs.length = 36 ∧ cs.getD 8 ' ' = '-' ∧ cs.getD 13 ' ' = '-' ∧ cs.getD 18 ' ' = '-' ∧
      cs.getD 23 ' ' = '-' then
    (hexValue? (cs.filter (· ≠ '-'))).bind fun v =>
      if (cs.filter (· = '-')).length = 4 then some (ofNat v) else none
  else none

/-- Whether a prefix of nine characters is `urn:uuid:` in any case. -/
def isUrnPrefix (cs : List Char) : Bool :=
  (cs.take 9).map Char.toLower == "urn:uuid:".toList

/-- Read a UUID in one of the four accepted forms (lengths in bytes). -/
def parseForm? (s : String) : Option Uuid :=
  let cs := s.toList
  match s.utf8ByteSize with
  | 32 => if cs.length = 32 then (hexValue? cs).map ofNat else none
  | 36 => parseHyphenated cs
  | 38 => if cs.head? = some '{' ∧ cs.getLast? = some '}' then parseHyphenated ((cs.drop 1).dropLast)
          else none
  | 45 => if isUrnPrefix cs then parseHyphenated (cs.drop 9) else none
  | _ => none

/-- Scan the text without its prefix: the first bad character, the number of
hyphens and the offsets of the first four. -/
def scan : Nat → List Char → Nat → List Nat → Except ParseError (Nat × List Nat)
  | _, [], count, bounds => .ok (count, bounds)
  | index, c :: rest, count, bounds =>
    if c.toNat ≥ 128 then .error (.character c index)
    else if c = '-' then
      scan (index + c.utf8Size) rest (count + 1) (if count < 4 then bounds ++ [index] else bounds)
    else if (Hex.digitValue? c).isSome then scan (index + 1) rest count bounds
    else .error (.character c index)

/-- The first group, among the first four, that ends at the wrong place. -/
def firstBadGroup : Nat → List Nat → List Nat → Option (Nat × Nat)
  | g, b :: bs, start :: next :: starts =>
    if b ≠ next - 1 then some (g, b - start) else firstBadGroup (g + 1) bs (next :: starts)
  | _, _, _ => none

/-- The length in bytes of the longest accepted form, the URN. -/
def longestForm : Nat := 45

/-- The hyphenated part of a text that has the size and frame of a hyphenated
form: 36 bytes bare, 38 between braces, 45 after a URN prefix. -/
def framedBody? (s : String) : Option (List Char) :=
  let cs := s.toList
  match s.utf8ByteSize with
  | 36 => some cs
  | 38 => if cs.head? = some '{' ∧ cs.getLast? = some '}' then some ((cs.drop 1).dropLast) else none
  | 45 => if isUrnPrefix cs then some (cs.drop 9) else none
  | _ => none

/-- Say why a body is no UUID: positions are shifted by the prefix length
`offset`, and `size` is the byte length of the whole text. -/
def diagnoseBody (body : List Char) (offset : Nat) (simple : Bool) (size : Nat) : ParseError :=
  match scan 0 body 0 [] with
  | .error (.character c i) => .character c (i + offset)
  | .error e => e
  | .ok (count, bounds) =>
    if count = 0 ∧ simple then .length size
    else if count ≠ 4 then .groupCount (count + 1)
    else
      match firstBadGroup 0 bounds groupStarts with
      | some (g, len) => .groupLength g len
      | none => .groupLength 4 (size - 24)

/-- Say why a text that is in none of the accepted forms is no UUID. -/
def diagnose (s : String) : ParseError :=
  if s.utf8ByteSize > longestForm then .length s.utf8ByteSize else
  match framedBody? s with
  | some body => diagnoseBody body 0 false 36
  | none =>
    let cs := s.toList
    if cs.length ≥ 2 ∧ cs.head? = some '{' ∧ cs.getLast? = some '}' then
      diagnoseBody ((cs.drop 1).dropLast) 1 false s.utf8ByteSize
    else if cs.length ≥ 9 ∧ isUrnPrefix cs then diagnoseBody (cs.drop 9) 9 false s.utf8ByteSize
    else diagnoseBody cs 0 true s.utf8ByteSize

/-- Read a UUID. -/
def parse (s : String) : Except ParseError Uuid :=
  match parseForm? s with
  | some u => .ok u
  | none => .error (diagnose s)

/-- The 32 lowercase hexadecimal digits. -/
def hexDigits (u : Uuid) : List Char :=
  (List.range 32).reverse.map fun i => Hex.digitChar ((u.value.toNat / Nat.pow 16 i) % 16)

/-- The lowercase hyphenated form. -/
def hyphenated (u : Uuid) : String :=
  let ds := u.hexDigits
  String.ofList (ds.take 8 ++ ['-'] ++ (ds.drop 8).take 4 ++ ['-'] ++ (ds.drop 12).take 4 ++ ['-'] ++
    (ds.drop 16).take 4 ++ ['-'] ++ ds.drop 20)

/-- The URN form `urn:uuid:…`. -/
def urn (u : Uuid) : String := "urn:uuid:" ++ u.hyphenated

/-- The version, the high four bits of the seventh byte. -/
def version (u : Uuid) : Nat := (u.value.toNat / Nat.pow 2 76) % 16

/-- The variant bits, the high two bits of the ninth byte. -/
def variantBits (u : Uuid) : Nat := (u.value.toNat / Nat.pow 2 62) % 4

/-- Whether the UUID is a random (version 4, RFC variant) one. -/
def isRandom (u : Uuid) : Bool := u.version == 4 && u.variantBits == 2

/-- The random UUID made of sixteen random bytes: version and variant bits are
set, the other 122 bits are taken from the bytes. -/
def ofRandomBytes (bytes : Bytes) : Uuid :=
  let raw := (bytes.take 16).foldl (fun acc b => acc * 256 + b.toNat) 0
  let cleared := raw - ((raw / Nat.pow 2 76) % 16) * Nat.pow 2 76
  let cleared := cleared - ((cleared / Nat.pow 2 62) % 4) * Nat.pow 2 62
  ofNat (cleared + 4 * Nat.pow 2 76 + 2 * Nat.pow 2 62)

end Uuid

end Attest
