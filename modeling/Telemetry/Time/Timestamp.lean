import Telemetry.Time.Duration
import Telemetry.Text.Decimal

/-! Points in time and their RFC 3339 text in UTC. -/
namespace Telemetry

/-- Seconds since the start of 1970 and nanoseconds past them; a leap second has a billion or more. -/
structure Timestamp where
  seconds : Int
  nanos : Nat
  deriving DecidableEq, Repr, Inhabited

namespace Timestamp

/-- A date of the proleptic Gregorian calendar. -/
structure Date where
  year : Int
  month : Nat
  day : Nat
  deriving DecidableEq, Repr

/-- The date so many days after the first of January 1970. Years are counted from March, in eras of
four hundred years. -/
def Date.ofDays (days : Int) : Date :=
  let shifted := days + 719468
  let era := shifted.fdiv 146097
  let dayOfEra := (shifted.fmod 146097).toNat
  let yearOfEra := (dayOfEra - dayOfEra / 1460 + dayOfEra / 36524 - dayOfEra / 146096) / 365
  let dayOfYear := dayOfEra - (365 * yearOfEra + yearOfEra / 4 - yearOfEra / 100)
  let monthFromMarch := (5 * dayOfYear + 2) / 153
  let month := if monthFromMarch < 10 then monthFromMarch + 3 else monthFromMarch - 9
  { year := era * 400 + yearOfEra + (if month ≤ 2 then 1 else 0)
    month
    day := dayOfYear - (153 * monthFromMarch + 2) / 5 + 1 }

/-- At least four digits; a sign only outside the years 0 to 9999. -/
def yearText (year : Int) : String :=
  let digits := Text.padLeft 4 '0' (toString year.natAbs)
  if year < 0 then "-" ++ digits else if year > 9999 then "+" ++ digits else digits

def twoDigits (n : Nat) : String :=
  Text.padLeft 2 '0' (toString n)

/-- Nothing, or three, six or nine digits: the fewest that lose nothing. -/
def fractionText (nanos : Nat) : String :=
  if nanos = 0 then ""
  else if nanos % 1000000 = 0 then "." ++ Text.padLeft 3 '0' (toString (nanos / 1000000))
  else if nanos % 1000 = 0 then "." ++ Text.padLeft 6 '0' (toString (nanos / 1000))
  else "." ++ Text.padLeft 9 '0' (toString nanos)

/-- Date and time of day with a trailing Z; a leap second shows as second sixty. -/
def render (time : Timestamp) : String :=
  let date := Date.ofDays (time.seconds.fdiv 86400)
  let clock := (time.seconds.fmod 86400).toNat
  let second := clock % 60 + time.nanos / nanosPerSecond
  yearText date.year ++ "-" ++ twoDigits date.month ++ "-" ++ twoDigits date.day ++ "T" ++
    twoDigits (clock / 3600) ++ ":" ++ twoDigits (clock / 60 % 60) ++ ":" ++ twoDigits second ++
    fractionText (time.nanos % nanosPerSecond) ++ "Z"

end Timestamp

end Telemetry
