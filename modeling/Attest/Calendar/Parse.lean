import Attest.Calendar.Date
import Attest.Text.Blank

/-!
# Reading dates and date-times

`Calendar.readDateTime` reads an RFC 3339 date-time: exactly four year digits,
two-digit fields, `T`, `t` or a space between date and time, optional
fractional seconds of any length (digits past the ninth are ignored), and an
offset that is `Z`, `z` or `±hh:mm` within `±23:59`.  A second of `60` is read
as `59` with one more second of fraction, the usual encoding of a leap second.

The checks run from left to right, so the first fault found names the error:
a text under 19 bytes is too short, a wrong character is invalid, an
impossible date is out of range as soon as the day is read, an impossible time
once the seconds and their fraction are read.  Text after the offset is
refused before the offset is checked against its bounds.

`Calendar.readDate` reads `year-month-day` with a year of one to four digits,
or a signed year of any length, and months and days of one or two digits,
each number allowed to follow blanks.
-/

namespace Attest

namespace Calendar

/-- Why a date or date-time text was refused. -/
inductive ParseError where
  | outOfRange
  | invalid
  | tooShort
  | tooLong
  deriving DecidableEq, Repr

/-- The description of a parse error. -/
def ParseError.message : ParseError → String
  | .outOfRange => "input is out of range"
  | .invalid => "input contains invalid characters"
  | .tooShort => "premature end of input"
  | .tooLong => "trailing input"

/-- A date-time as written: a date, a time of day whose fraction may exceed a
second for a leap second, and the offset from UTC in seconds. -/
structure DateTime where
  date : Date
  hour : Nat
  minute : Nat
  second : Nat
  nanos : Nat
  offset : Int
  deriving DecidableEq, Repr

/-- Seconds from 1970-01-01T00:00:00Z, the fraction dropped. -/
def DateTime.epochSeconds (t : DateTime) : Int :=
  t.date.toDays * 86400 + (t.hour * 3600 + t.minute * 60 + t.second : Nat) - t.offset

/-- The date in UTC. -/
def DateTime.utcDate (t : DateTime) : Date := Date.ofDays (t.epochSeconds / 86400)

/-- The value of an ASCII digit. -/
def digit? (c : Char) : Option Nat :=
  if '0' ≤ c ∧ c ≤ '9' then some (c.toNat - '0'.toNat) else none

/-- The value of two ASCII digits. -/
def twoDigits (a b : Char) : Except ParseError Nat :=
  match digit? a, digit? b with
  | some x, some y => .ok (10 * x + y)
  | _, _ => .error .invalid

/-- Expect a character. -/
def expectChar (c : Char) (x : Char) : Except ParseError Unit :=
  if c = x then .ok () else .error .invalid

/-- Byte length of characters. -/
def byteLength (cs : List Char) : Nat := cs.foldl (fun n c => n + c.utf8Size) 0

/-- Read up to `max` digits, at least `min`; the value and the rest. -/
def number (min max : Nat) (cs : List Char) : Except ParseError (Nat × List Char) :=
  if byteLength cs < min then .error .tooShort else go 0 0 cs
where
  /-- Accumulate digits. -/
  go : Nat → Nat → List Char → Except ParseError (Nat × List Char)
    | i, n, c :: rest =>
      if i ≥ max then .ok (n, c :: rest)
      else
        match digit? c with
        | some d => go (i + 1) (10 * n + d) rest
        | none => if i < min then .error .invalid else .ok (n, c :: rest)
    | i, n, [] => if i < min then .error .tooShort else .ok (n, [])

/-- Drop ASCII digits. -/
def dropDigits : List Char → List Char
  | c :: rest => if (digit? c).isSome then dropDigits rest else c :: rest
  | [] => []

/-- Fractional seconds after the point: one to nine digits scaled to
nanoseconds, further digits ignored. -/
def fraction (cs : List Char) : Except ParseError (Nat × List Char) := do
  let (v, rest) ← number 1 9 cs
  let used := cs.length - rest.length
  .ok (v * Nat.pow 10 (9 - used), dropDigits rest)

/-- A time-zone offset in seconds: `Z`, `z`, or a sign (`+`, `-` or U+2212),
two hour digits, a colon and two minute digits. -/
def offset (cs : List Char) : Except ParseError (Int × List Char) :=
  match cs with
  | [] => .error .tooShort
  | c :: rest =>
    if c = 'Z' ∨ c = 'z' then .ok (0, rest)
    else if c = '+' ∨ c = '-' ∨ c = '−' then
      let negative := c ≠ '+'
      if byteLength rest < 2 then .error .tooShort
      else
        match rest with
        | h1 :: h2 :: r =>
          match twoDigits h1 h2 with
          | .error e => .error e
          | .ok hours =>
            match r with
            | [] => .error .tooShort
            | ':' :: r2 =>
              if byteLength r2 < 2 then .error .tooShort
              else
                match r2 with
                | m1 :: m2 :: r3 =>
                  match digit? m1, digit? m2 with
                  | some a, some b =>
                    if a ≥ 6 then .error .outOfRange
                    else
                      let secs : Int := hours * 3600 + (10 * a + b) * 60
                      .ok (if negative then -secs else secs, r3)
                  | _, _ => .error .invalid
                | _ => .error .invalid
            | _ :: _ => .error .invalid
        | _ => .error .invalid
    else .error .invalid

/-- The largest offset a date-time may carry, `23:59`. -/
def maxOffset : Int := (23 * 60 + 59) * 60

/-- Whether a time of day is possible; a fraction of a second or more only
goes with second 59, where it encodes a leap second. -/
def timeIsValid (h m s nanos : Nat) : Bool :=
  h < 24 && m < 60 && s < 60 && nanos < 2000000000 && (nanos < 1000000000 || s == 59)

/-- Expect a literal character of a date pattern. -/
def literal (c : Char) (cs : List Char) : Except ParseError (List Char) :=
  match cs with
  | [] => .error .tooShort
  | x :: rest => if x = c then .ok rest else .error .invalid

/-- Expect one of the characters that separate date and time. -/
def separator (cs : List Char) : Except ParseError (List Char) :=
  match cs with
  | [] => .error .tooShort
  | c :: rest => if c = 'T' ∨ c = 't' ∨ c = ' ' then .ok rest else .error .invalid

/-- Read an RFC 3339 date-time at the start of the text; the rest follows.
The offset is not yet checked against its bounds. -/
def readDateTimePrefix (cs : List Char) : Except ParseError (DateTime × List Char) :=
  if byteLength cs < 19 then .error .tooShort
  else do
    let (year, r) ← number 4 4 cs
    let r ← literal '-' r
    let (month, r) ← number 2 2 r
    let r ← literal '-' r
    let (day, r) ← number 2 2 r
    let date ← match Date.ofYmd? year month day with
      | some d => .ok d
      | none => .error .outOfRange
    let r ← separator r
    let (hour, r) ← number 2 2 r
    let r ← literal ':' r
    let (minute, r) ← number 2 2 r
    let r ← literal ':' r
    let (sec, r) ← number 2 2 r
    let (second, extra) := if sec = 60 then (59, 1000000000) else (sec, 0)
    let (nanos, r) ← match r with
      | '.' :: r' => do
        let (n, r'') ← fraction r'
        .ok (extra + n, r'')
      | r' => .ok (extra, r')
    if !timeIsValid hour minute second nanos then .error .outOfRange
    let (off, r) ← offset r
    .ok (⟨date, hour, minute, second, nanos, off⟩, r)

/-- Read a whole RFC 3339 date-time: trailing text is refused before the
offset is checked against its bounds. -/
def readDateTime (s : String) : Except ParseError DateTime := do
  let (t, rest) ← readDateTimePrefix s.toList
  if !rest.isEmpty then .error .tooLong
  else if t.offset < -maxOffset ∨ t.offset > maxOffset then .error .outOfRange
  else .ok t

/-- A numeric field after optional blanks: a year may carry a sign and then
any number of digits. -/
def signedYear (cs : List Char) : Except ParseError (Int × List Char) :=
  match Text.dropBlanks cs with
  | '-' :: r => (number 1 (r.length + 1) r).map fun (v, r') => (-(v : Int), r')
  | '+' :: r => (number 1 (r.length + 1) r).map fun (v, r') => ((v : Int), r')
  | r => (number 1 4 r).map fun (v, r') => ((v : Int), r')

/-- Read `year-month-day` as described above. -/
def readDate (s : String) : Except ParseError Date := do
  let (year, r) ← signedYear s.toList
  if year < -(Int.pow 2 31) ∨ year ≥ Int.pow 2 31 then .error .outOfRange
  let r ← literal '-' r
  let (month, r) ← number 1 2 (Text.dropBlanks r)
  if month < 1 ∨ month > 12 then .error .outOfRange
  let r ← literal '-' r
  let (day, r) ← number 1 2 (Text.dropBlanks r)
  if day < 1 ∨ day > 31 then .error .outOfRange
  if !r.isEmpty then .error .tooLong
  match Date.ofYmd? year month day with
  | some d => .ok d
  | none => .error .outOfRange

end Calendar

end Attest
