import Attest.ValueError

/-!
# Timestamps

A `Timestamp` is an instant in UTC: whole seconds from 1970-01-01T00:00:00Z
and a fraction in nanoseconds.  The representable instants run from
`-262143-01-01T00:00:00Z` to `+262142-12-31T23:59:59.999999999Z`.  Parsing and
the clock give whole seconds.  Timestamps are ordered by seconds, then
fraction.

Adding a count of seconds goes in three steps, each with its own fallback: the
count becomes a signed 64-bit count (the largest one when it does not fit),
that becomes a span of time (the longest span, `2 ^ 63 - 1` milliseconds, when
it is longer), and the span is added when the result is representable; when it
is not, the sum is the last representable instant, fraction included.
-/

namespace Attest

/-- An instant in UTC. -/
structure Timestamp where
  seconds : Int
  nanos : Nat
  deriving DecidableEq, Repr

/-- A span of time: whole seconds and a fraction of a second in nanoseconds. -/
structure Span where
  seconds : Int
  nanos : Nat
  deriving DecidableEq, Repr

namespace Span

/-- The longest span, `2 ^ 63 - 1` milliseconds. -/
def longest : Span := ⟨9223372036854775, 807000000⟩

/-- A span of whole seconds, if it is no longer than the longest span either way. -/
def ofSeconds? (secs : Int) : Option Span :=
  if -9223372036854775 ≤ secs ∧ secs ≤ 9223372036854775 then some ⟨secs, 0⟩ else none

end Span

namespace Timestamp

/-- The seconds of the first representable instant, `-262143-01-01T00:00:00Z`. -/
def earliestSeconds : Int := -8334601228800

/-- The seconds of the last representable instant, `+262142-12-31T23:59:59Z`. -/
def latestSeconds : Int := 8210266876799

/-- The last representable instant. -/
def latest : Timestamp := ⟨latestSeconds, 999999999⟩

/-- The whole-second instant `seconds` after the epoch. -/
def ofSeconds (seconds : Int) : Timestamp := ⟨seconds, 0⟩

/-- Instants ordered by seconds, then fraction. -/
def lt (a b : Timestamp) : Bool := a.seconds < b.seconds || (a.seconds == b.seconds && a.nanos < b.nanos)

/-- Read an RFC 3339 date-time that ends in an uppercase `Z`; the fraction of
a second is dropped. -/
def parse (s : String) : Except ValueError Timestamp :=
  if !s.endsWith "Z" then .error (.invalidTimestamp (.notUtc s))
  else
    match Calendar.readDateTime s with
    | .ok t => .ok (ofSeconds t.epochSeconds)
    | .error e => .error (.invalidTimestamp (.unreadable s e))

/-- A count as a signed 64-bit count: a count beyond the largest one, `2 ^ 63 - 1`, becomes
it. -/
def toInt64Saturating (n : Nat) : Int :=
  if n < 9223372036854775808 then n else 9223372036854775807

/-- The instant a span later, if it is representable; the fractions carry into the seconds. -/
def addSpan? (t : Timestamp) (d : Span) : Option Timestamp :=
  let secs := t.seconds + d.seconds + ((t.nanos + d.nanos) / 1000000000 : Nat)
  if earliestSeconds ≤ secs ∧ secs ≤ latestSeconds then
    some ⟨secs, (t.nanos + d.nanos) % 1000000000⟩
  else none

/-- Add whole seconds: the count as a signed 64-bit count, that count as a span (the longest
span when it is longer), and the instant that span later, or the last representable instant
when that one is not representable. -/
def plusSeconds (t : Timestamp) (n : Nat) : Timestamp :=
  let d := (Span.ofSeconds? (toInt64Saturating n)).getD Span.longest
  (t.addSpan? d).getD latest

/-- The text `YYYY-MM-DDTHH:MM:SSZ`. -/
def iso (t : Timestamp) : String :=
  let day := t.seconds / 86400
  let secs := (t.seconds % 86400).toNat
  (Calendar.Date.ofDays day).text ++ "T" ++ Calendar.padded 2 (secs / 3600) ++ ":" ++
    Calendar.padded 2 (secs / 60 % 60) ++ ":" ++ Calendar.padded 2 (secs % 60) ++ "Z"

end Timestamp

end Attest
