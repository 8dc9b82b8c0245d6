/-!
# Civil dates

A `Calendar.Date` is a day of the proleptic Gregorian calendar, with years
counted astronomically (the year before 1 is 0).  `Date.toDays` counts days
from 1970-01-01 and `Date.ofDays` inverts it; both follow the usual
400-year-era arithmetic, in which March starts the computational year so that
the leap day ends it.

Dates are kept within the years `-262143 … 262142`, the span in which every
moment has a 64-bit nanosecond-free representation used by the timestamps of
this library.
-/

namespace Attest

namespace Calendar

/-- A civil date. -/
structure Date where
  year : Int
  month : Nat
  day : Nat
  deriving DecidableEq, Repr

/-- Earliest year of a date. -/
def minYear : Int := -262143

/-- Latest year of a date. -/
def maxYear : Int := 262142

/-- Gregorian leap years. -/
def isLeapYear (y : Int) : Bool := y % 4 == 0 && (y % 100 != 0 || y % 400 == 0)

/-- The number of days of a month. -/
def daysInMonth (y : Int) (m : Nat) : Nat :=
  match m with
  | 1 | 3 | 5 | 7 | 8 | 10 | 12 => 31
  | 4 | 6 | 9 | 11 => 30
  | 2 => if isLeapYear y then 29 else 28
  | _ => 0

/-- Whether the three numbers name a date in range. -/
def Date.isValid (d : Date) : Bool :=
  minYear ≤ d.year && d.year ≤ maxYear && 1 ≤ d.month && d.month ≤ 12 &&
    1 ≤ d.day && d.day ≤ daysInMonth d.year d.month

/-- The date of year, month and day, if it exists. -/
def Date.ofYmd? (y : Int) (m d : Nat) : Option Date :=
  let date : Date := ⟨y, m, d⟩
  if date.isValid then some date else none

/-- Days from 1970-01-01 to the date. -/
def Date.toDays (d : Date) : Int :=
  let y : Int := if d.month ≤ 2 then d.year - 1 else d.year
  let era : Int := y / 400
  let yoe : Int := y - era * 400
  let mp : Int := if d.month > 2 then (d.month : Int) - 3 else (d.month : Int) + 9
  let doy : Int := (153 * mp + 2) / 5 + (d.day : Int) - 1
  let doe : Int := yoe * 365 + yoe / 4 - yoe / 100 + doy
  era * 146097 + doe - 719468

/-- The date `days` days after 1970-01-01. -/
def Date.ofDays (days : Int) : Date :=
  let z : Int := days + 719468
  let era : Int := z / 146097
  let doe : Int := z - era * 146097
  let yoe : Int := (doe - doe / 1460 + doe / 36524 - doe / 146096) / 365
  let doy : Int := doe - (365 * yoe + yoe / 4 - yoe / 100)
  let mp : Int := (5 * doy + 2) / 153
  let day : Int := doy - (153 * mp + 2) / 5 + 1
  let month : Int := if mp < 10 then mp + 3 else mp - 9
  let year : Int := yoe + era * 400 + (if month ≤ 2 then 1 else 0)
  ⟨year, month.toNat, day.toNat⟩

/-- `n` written with at least `width` digits. -/
def padded (width : Nat) (n : Nat) : String :=
  let ds := Nat.toDigits 10 n
  String.ofList (List.replicate (width - ds.length) '0' ++ ds)

/-- The year as written in dates: four digits for years 0 to 9999, otherwise
a sign and at least four digits. -/
def yearText (y : Int) : String :=
  if 0 ≤ y ∧ y ≤ 9999 then padded 4 y.toNat
  else (if y < 0 then "-" else "+") ++ padded 4 y.natAbs

/-- The date as `YYYY-MM-DD`. -/
def Date.text (d : Date) : String :=
  yearText d.year ++ "-" ++ padded 2 d.month ++ "-" ++ padded 2 d.day

end Calendar

end Attest
