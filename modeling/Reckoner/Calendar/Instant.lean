import Reckoner.Calendar.Date
import Reckoner.Number.Binary

namespace Reckoner.Calendar

/-- A point in time: seconds from the beginning of 1970 and nanoseconds inside the second. A leap
second is written on the second before it, with `10 ^ 9` nanoseconds or more. -/
structure Instant where
  seconds : Int
  nanos : Nat
deriving DecidableEq, Repr

namespace Instant

def days (t : Instant) : Int := t.seconds / 86400

def date (t : Instant) : Date := .ofDays t.days

def secondOfDay (t : Instant) : Nat := (t.seconds % 86400).toNat

/-- The instant if its day is in range. -/
def inRange? (t : Instant) : Option Instant :=
  if firstDay ≤ t.days ∧ t.days ≤ lastDay then some t else none

/-- Milliseconds from the beginning of 1970. -/
def millis (t : Instant) : Int := t.seconds * 1000 + (t.nanos / 1000000 : Nat)

/-- The instant a number of milliseconds from the beginning of 1970. -/
def ofMillis? (millis : Int) : Option Instant :=
  inRange? ⟨millis / 1000, (millis % 1000).toNat * 1000000⟩

/-- The instant of a time value; fractions of a millisecond are dropped. -/
def ofTimeValue? (value : Float) : Option Instant :=
  Number.toInt? value >>= ofMillis?

/-- The time value of an instant. -/
def timeValue (t : Instant) : Float := Number.ofInt t.millis

/-- Decimal digits with zeros in front up to a width. -/
def padded (width n : Nat) : String :=
  let digits := Nat.toDigits 10 n
  String.ofList (List.replicate (width - digits.length) '0' ++ digits)

/-- Years outside 0 to 9999 carry a sign. -/
def yearText (year : Int) : String :=
  if 0 ≤ year ∧ year ≤ 9999 then padded 4 year.toNat
  else (if year < 0 then "-" else "+") ++ padded 4 year.natAbs

/-- The text `2020-02-29T12:30:00.000Z`. Digits below the millisecond are dropped, and a leap second
is the sixty-first of its minute. -/
def text (t : Instant) : String :=
  let d := t.date
  let s := t.secondOfDay
  let leap := t.nanos / 1000000000
  yearText d.year ++ "-" ++ padded 2 d.month ++ "-" ++ padded 2 d.day ++ "T" ++
    padded 2 (s / 3600) ++ ":" ++ padded 2 (s / 60 % 60) ++ ":" ++ padded 2 (s % 60 + leap) ++
    "." ++ padded 3 (t.nanos % 1000000000 / 1000000) ++ "Z"

end Instant

end Reckoner.Calendar
