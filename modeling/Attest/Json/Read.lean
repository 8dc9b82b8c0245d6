import Attest.Json.Basic
import Attest.Binary64.Decimal

/-!
# Reading JSON text

`Json.read` turns a JSON text (RFC 8259) into a `Json` value, or says what is
wrong and where.  The reader works on the characters of the text and returns
what is left after each value, so every step can be described by what it
consumed.

The rules beyond the grammar:

* a number literal without `.`, `e` or `E` whose value lies in
  `[-2 ^ 63, 2 ^ 64 - 1]` is an integer, except `-0`, which is the double
  `-0.0`; every other literal is the double nearest to its exact decimal
  value, all digits counted (`Binary64.ofDecimal`); a literal whose double
  overflows is refused;
* object members are kept sorted by name, and of two members with one name the
  later wins;
* at most 127 arrays and objects may be open at once;
* an error is located by line and column, the column counting bytes, at the
  offending character (or just after it, when it had to be read first).
-/

namespace Attest

namespace Json

/-- What a reader found wrong. -/
inductive ReadError.Code where
  | eofInValue
  | eofInList
  | eofInObject
  | eofInString
  | expectedValue
  | expectedIdent
  | expectedListCommaOrEnd
  | expectedObjectCommaOrEnd
  | expectedColon
  | keyMustBeString
  | trailingCharacters
  | trailingComma
  | invalidNumber
  | numberOutOfRange
  | invalidEscape
  | controlCharacter
  | loneLeadingSurrogate
  | unexpectedEndOfHexEscape
  | recursionLimitExceeded
  deriving DecidableEq, Repr

/-- The description of an error code. -/
def ReadError.Code.message : ReadError.Code → String
  | .eofInValue => "EOF while parsing a value"
  | .eofInList => "EOF while parsing a list"
  | .eofInObject => "EOF while parsing an object"
  | .eofInString => "EOF while parsing a string"
  | .expectedValue => "expected value"
  | .expectedIdent => "expected ident"
  | .expectedListCommaOrEnd => "expected `,` or `]`"
  | .expectedObjectCommaOrEnd => "expected `,` or `\x7d`"
  | .expectedColon => "expected `:`"
  | .keyMustBeString => "key must be a string"
  | .trailingCharacters => "trailing characters"
  | .trailingComma => "trailing comma"
  | .invalidNumber => "invalid number"
  | .numberOutOfRange => "number out of range"
  | .invalidEscape => "invalid escape"
  | .controlCharacter => "control character (\\u0000-\\u001F) found while parsing a string"
  | .loneLeadingSurrogate => "lone leading surrogate in hex escape"
  | .unexpectedEndOfHexEscape => "unexpected end of hex escape"
  | .recursionLimitExceeded => "recursion limit exceeded"

/-- A reading error: its code, the input left where it was found, and how many
bytes past the start of that rest the reported position lies. -/
structure ReadError where
  code : ReadError.Code
  rest : List Char
  ahead : Nat

/-- An error located at the start of `rest`, the offending character having
been consumed already. -/
def ReadError.at (code : ReadError.Code) (rest : List Char) : ReadError := ⟨code, rest, 0⟩

/-- An error located just after the first byte of `rest`: the offending
character is the next one, only looked at. -/
def ReadError.peek (code : ReadError.Code) (rest : List Char) : ReadError := ⟨code, rest, 1⟩

/-- The result of a reading step: a value and the rest of the input. -/
abbrev Step (α : Type) := Except ReadError (α × List Char)

/-- Skip the four JSON blanks. -/
def skipBlanks : List Char → List Char
  | c :: rest => if c = ' ' ∨ c = '\n' ∨ c = '\t' ∨ c = '\r' then skipBlanks rest else c :: rest
  | [] => []

/-- Expect the characters of `word` to follow. -/
def expectWord : List Char → List Char → Except ReadError (List Char)
  | [], s => .ok s
  | _ :: _, [] => .error (.at .eofInValue [])
  | w :: ws, c :: rest => if c = w then expectWord ws rest else .error (.at .expectedIdent rest)

/-- The value of an ASCII decimal digit. -/
def digitValue? (c : Char) : Option Nat :=
  if '0' ≤ c ∧ c ≤ '9' then some (c.toNat - '0'.toNat) else none

/-- Whether a digit cannot be appended to `sig` within 64 bits. -/
def overflowsU64 (sig d : Nat) : Bool :=
  sig > 1844674407370955161 || (sig == 1844674407370955161 && d > 5)

/-- Whether a digit cannot be appended to an exponent within 31 bits. -/
def overflowsI32 (e d : Nat) : Bool :=
  e > 214748364 || (e == 214748364 && d > 7)

/-- Exponents saturate at the 32-bit bounds. -/
def saturateI32 (e : Int) : Int := max (-(Int.pow 2 31)) (min (Int.pow 2 31 - 1) e)

/-- The double nearest to `sig * 10 ^ e` with the sign, or out of range. -/
def floatOfParts (negative : Bool) (sig : Nat) (e : Int) (rest : List Char) : Step Number :=
  let x := Binary64.ofDecimal negative sig e
  if x.isInfinite then .error (.at .numberOutOfRange rest) else .ok (.float x, rest)

/-- Skip decimal digits. -/
def skipDigits : List Char → List Char
  | c :: rest => if (digitValue? c).isSome then skipDigits rest else c :: rest
  | [] => []

/-- Append the decimal digits at the front to `sig`; gives the rest. -/
def appendDigits : Nat → List Char → Nat × List Char
  | sig, c :: rest =>
    match digitValue? c with
    | some d => appendDigits (sig * 10 + d) rest
    | none => (sig, c :: rest)
  | sig, [] => (sig, [])

/-- Where the digits of an exponent end: with the exponent, or at the first
digit that would take it past 31 bits. -/
inductive ExponentEnd where
  | fits (e : Nat) (rest : List Char)
  | overflows (rest : List Char)

/-- Read the digits of an exponent after its first one. -/
def exponentDigits : Nat → List Char → ExponentEnd
  | e, c :: rest =>
    match digitValue? c with
    | some d => if overflowsI32 e d then .overflows (c :: rest) else exponentDigits (e * 10 + d) rest
    | none => .fits e (c :: rest)
  | e, [] => .fits e []

/-- The exponent part, from just after `e` or `E`. -/
def readExponent (negative : Bool) (sig : Nat) (start : Int) (s : List Char) : Step Number :=
  let (positive, s) : Bool × List Char :=
    match s with
    | '+' :: r => (true, r)
    | '-' :: r => (false, r)
    | r => (true, r)
  match s with
  | [] => .error (.at .eofInValue [])
  | c :: r =>
    match digitValue? c with
    | none => .error (.at .invalidNumber r)
    | some d =>
      match exponentDigits d r with
      | .fits e r' =>
        let total := if positive then saturateI32 (start + e) else saturateI32 (start - e)
        floatOfParts negative sig total r'
      | .overflows r' =>
        -- an exponent beyond 31 bits: infinity is refused, zero is kept
        if sig != 0 && positive then .error (.at .numberOutOfRange r')
        else .ok (.float (if negative then Binary64.zero.neg else Binary64.zero), skipDigits r')

/-- Digits after the decimal point: each one joins the significand and
lowers the exponent. -/
def fractionDigits (negative : Bool) : Nat → Int → Nat → List Char → Step Number
  | sig, e, count, c :: rest =>
    match digitValue? c with
    | some d => fractionDigits negative (sig * 10 + d) (e - 1) (count + 1) rest
    | none =>
      if count = 0 then .error (.peek .invalidNumber (c :: rest))
      else if c = 'e' ∨ c = 'E' then readExponent negative sig e rest
      else floatOfParts negative sig e (c :: rest)
  | sig, e, count, [] =>
    if count = 0 then .error (.peek .eofInValue []) else floatOfParts negative sig e []

/-- What follows the integer digits of a number that fit in 64 bits. -/
def numberTail (negative : Bool) (sig : Nat) (s : List Char) : Step Number :=
  match s with
  | '.' :: r => fractionDigits negative sig 0 0 r
  | 'e' :: r => readExponent negative sig 0 r
  | 'E' :: r => readExponent negative sig 0 r
  | r =>
    if !negative then .ok (.int sig, r)
    else if sig = 0 ∨ sig > Nat.pow 2 63 then
      .ok (.float (Binary64.ofNat sig).neg, r)
    else .ok (.int (-(sig : Int)), r)

/-- An integer part too long for 64 bits: the number is a double. -/
def longInteger (negative : Bool) (sig : Nat) (s : List Char) : Step Number :=
  let (sig, r) := appendDigits sig s
  match r with
  | '.' :: r' => fractionDigits negative sig 0 0 r'
  | 'e' :: r' => readExponent negative sig 0 r'
  | 'E' :: r' => readExponent negative sig 0 r'
  | r' => floatOfParts negative sig 0 r'

/-- The integer digits of a number after its first one. -/
def integerDigits (negative : Bool) : Nat → List Char → Step Number
  | sig, c :: rest =>
    match digitValue? c with
    | some d =>
      if overflowsU64 sig d then longInteger negative sig (c :: rest)
      else integerDigits negative (sig * 10 + d) rest
    | none => numberTail negative sig (c :: rest)
  | sig, [] => numberTail negative sig []

/-- A number, from its first digit (after the minus sign, if any). -/
def readNumber (negative : Bool) (s : List Char) : Step Number :=
  match s with
  | [] => .error (.at .eofInValue [])
  | '0' :: rest =>
    match rest with
    | c :: _ => if (digitValue? c).isSome then .error (.peek .invalidNumber rest)
                else numberTail negative 0 rest
    | [] => numberTail negative 0 []
  | c :: rest =>
    match digitValue? c with
    | some d => integerDigits negative d rest
    | none => .error (.at .invalidNumber rest)

/-- The value of an ASCII hexadecimal digit. -/
def hexValue? (c : Char) : Option Nat :=
  if '0' ≤ c ∧ c ≤ '9' then some (c.toNat - '0'.toNat)
  else if 'a' ≤ c ∧ c ≤ 'f' then some (c.toNat - 'a'.toNat + 10)
  else if 'A' ≤ c ∧ c ≤ 'F' then some (c.toNat - 'A'.toNat + 10)
  else none

/-- The byte length of a run of characters. -/
def byteLength (cs : List Char) : Nat := cs.foldl (fun n c => n + c.utf8Size) 0

/-- Four hexadecimal digits of a `\u` escape.  Fewer than four bytes left is
the end of the input; four bytes that are not all hexadecimal digits are an
invalid escape, located after those four bytes. -/
def hexQuad (s : List Char) : Step Nat :=
  match s with
  | a :: b :: c :: d :: rest =>
    match hexValue? a, hexValue? b, hexValue? c, hexValue? d with
    | some w, some x, some y, some z => .ok (((w * 16 + x) * 16 + y) * 16 + z, rest)
    | _, _, _, _ => .error ⟨.invalidEscape, s, 4⟩
  | _ => if byteLength s ≥ 4 then .error ⟨.invalidEscape, s, 4⟩ else .error (.at .eofInString [])

/-- The character of a UTF-16 surrogate pair. -/
def surrogatePair (hi lo : Nat) : Char :=
  Char.ofNat ((hi - 0xD800) * 0x400 + (lo - 0xDC00) + 0x10000)

/-- A `\u` escape, from just after the `u`: a character of the basic plane, or
a leading surrogate followed by a `\u` escape of a trailing one. -/
def unicodeEscape (s : List Char) : Step Char :=
  match hexQuad s with
  | .error e => .error e
  | .ok (n, r) =>
    if 0xDC00 ≤ n ∧ n ≤ 0xDFFF then .error (.at .loneLeadingSurrogate r)
    else if n < 0xD800 ∨ n > 0xDBFF then .ok (Char.ofNat n, r)
    else
      match r with
      | [] => .error (.at .eofInString [])
      | '\\' :: r2 =>
        match r2 with
        | [] => .error (.at .eofInString [])
        | 'u' :: r3 =>
          match hexQuad r3 with
          | .error e => .error e
          | .ok (m, r4) =>
            if 0xDC00 ≤ m ∧ m ≤ 0xDFFF then .ok (surrogatePair n m, r4)
            else .error (.at .loneLeadingSurrogate r4)
        | _ :: r3 => .error (.at .unexpectedEndOfHexEscape r3)
      | _ :: r2 => .error (.at .unexpectedEndOfHexEscape r2)

/-- The character of a one-letter escape. -/
def simpleEscape? (c : Char) : Option Char :=
  match c with
  | '"' => some '"'
  | '\\' => some '\\'
  | '/' => some '/'
  | 'b' => some '\x08'
  | 'f' => some '\x0c'
  | 'n' => some '\n'
  | 'r' => some '\r'
  | 't' => some '\t'
  | _ => none

/-- The characters of a string up to its closing quote, accumulated in
reverse; `fuel` bounds the number of characters and escapes read. -/
def stringBody : Nat → List Char → List Char → Step String
  | 0, _, s => .error (.at .eofInString s)
  | fuel + 1, acc, s =>
    match s with
    | [] => .error (.at .eofInString [])
    | '"' :: rest => .ok (String.ofList acc.reverse, rest)
    | '\\' :: rest =>
      match rest with
      | [] => .error (.at .eofInString [])
      | 'u' :: r =>
        match unicodeEscape r with
        | .ok (c, r') => stringBody fuel (c :: acc) r'
        | .error e => .error e
      | c :: r =>
        match simpleEscape? c with
        | some e => stringBody fuel (e :: acc) r
        | none => .error (.at .invalidEscape r)
    | c :: rest =>
      if c.toNat < 0x20 then .error (.at .controlCharacter rest)
      else stringBody fuel (c :: acc) rest

/-- A string, from just after its opening quote. -/
def readString (s : List Char) : Step String := stringBody (s.length + 1) [] s

mutual

/-- A value after optional blanks.  `depth` is how many more arrays and objects
may be opened; `fuel` bounds the recursion and is sized from the input. -/
def readValue : Nat → Nat → List Char → Step Json
  | 0, _, s => .error (.peek .recursionLimitExceeded s)
  | fuel + 1, depth, s =>
    match skipBlanks s with
    | [] => .error (.peek .eofInValue [])
    | 'n' :: r => (expectWord ['u', 'l', 'l'] r).map (fun r => (.null, r))
    | 't' :: r => (expectWord ['r', 'u', 'e'] r).map (fun r => (.bool true, r))
    | 'f' :: r => (expectWord ['a', 'l', 's', 'e'] r).map (fun r => (.bool false, r))
    | '-' :: r => (readNumber true r).map (fun (n, r) => (.num n, r))
    | '"' :: r => (readString r).map (fun (t, r) => (.str t, r))
    | '[' :: r =>
      if depth ≤ 1 then .error (.peek .recursionLimitExceeded ('[' :: r))
      else readItems fuel (depth - 1) [] true r
    | '{' :: r =>
      if depth ≤ 1 then .error (.peek .recursionLimitExceeded ('{' :: r))
      else readMembers fuel (depth - 1) [] true r
    | c :: r =>
      if (digitValue? c).isSome then (readNumber false (c :: r)).map (fun (n, r) => (.num n, r))
      else .error (.peek .expectedValue (c :: r))

/-- The items of an array after its opening bracket, accumulated in reverse. -/
def readItems : Nat → Nat → List Json → Bool → List Char → Step Json
  | 0, _, _, _, s => .error (.peek .recursionLimitExceeded s)
  | fuel + 1, depth, acc, first, s =>
    match skipBlanks s with
    | [] => .error (.peek .eofInList [])
    | ']' :: r => .ok (.arr acc.reverse, r)
    | c :: r =>
      if first then
        match readValue fuel depth (c :: r) with
        | .ok (v, r') => readItems fuel depth (v :: acc) false r'
        | .error e => .error e
      else if c = ',' then
        match skipBlanks r with
        | ']' :: r' => .error (.peek .trailingComma (']' :: r'))
        | [] => .error (.peek .eofInValue [])
        | r' =>
          match readValue fuel depth r' with
          | .ok (v, r'') => readItems fuel depth (v :: acc) false r''
          | .error e => .error e
      else .error (.peek .expectedListCommaOrEnd (c :: r))

/-- The members of an object after its opening brace, kept sorted. -/
def readMembers : Nat → Nat → Members → Bool → List Char → Step Json
  | 0, _, _, _, s => .error (.peek .recursionLimitExceeded s)
  | fuel + 1, depth, acc, first, s =>
    let next : Except ReadError (List Char) :=
      match skipBlanks s with
      | [] => .error (.peek .eofInObject [])
      | '}' :: r => .ok ('}' :: r)
      | c :: r =>
        if first then .ok (c :: r)
        else if c = ',' then .ok (skipBlanks r)
        else .error (.peek .expectedObjectCommaOrEnd (c :: r))
    match next with
    | .error e => .error e
    | .ok s' =>
      match skipBlanks s, s' with
      | '}' :: r, _ => .ok (.obj acc, r)
      | _, '"' :: r =>
        match readString r with
        | .error e => .error e
        | .ok (name, r1) =>
          match skipBlanks r1 with
          | ':' :: r2 =>
            match readValue fuel depth r2 with
            | .ok (v, r3) => readMembers fuel depth (Members.insert name v acc) false r3
            | .error e => .error e
          | [] => .error (.peek .eofInObject [])
          | c :: r2 => .error (.peek .expectedColon (c :: r2))
      | _, '}' :: r => .error (.peek .trailingComma ('}' :: r))
      | _, [] => .error (.peek .eofInValue [])
      | _, c :: r => .error (.peek .keyMustBeString (c :: r))

end

/-- Read a whole JSON text, one value and then only blanks, with fewer than `limit` arrays
and objects open at once. -/
def readCharsWithin (limit : Nat) (s : List Char) : Except ReadError Json :=
  match readValue (3 * s.length + 8) limit s with
  | .error e => .error e
  | .ok (v, rest) =>
    match skipBlanks rest with
    | [] => .ok v
    | r => .error (.peek .trailingCharacters r)

/-- Read a whole JSON text: one value, then only blanks. -/
def readChars (s : List Char) : Except ReadError Json := readCharsWithin 128 s

/-- Line and column of a byte index: lines count from one, columns count the
bytes since the last line feed. -/
def lineColumn (cs : List Char) (index : Nat) : Nat × Nat :=
  go cs 0 1 0
where
  /-- Walk the characters that start before `index`. -/
  go : List Char → Nat → Nat → Nat → Nat × Nat
    | [], _, line, col => (line, col)
    | c :: rest, pos, line, col =>
      if pos ≥ index then (line, col)
      else if c = '\n' then go rest (pos + 1) (line + 1) 0
      else go rest (pos + c.utf8Size) line (col + min c.utf8Size (index - pos))

/-- The message of a reading error in `text`: what is wrong, then
`at line L column C`. -/
def ReadError.message (text : String) (e : ReadError) : String :=
  let cs := text.toList
  let total := byteLength cs
  let index := min total (total - byteLength e.rest + e.ahead)
  let (line, col) := lineColumn cs index
  s!"{e.code.message} at line {line} column {col}"

/-- Read a JSON text. -/
def read (text : String) : Except ReadError Json := readChars text.toList

end Json

end Attest
