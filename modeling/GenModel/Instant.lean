import GenModel.Text.Decimal

/-!
# Instants and their written form

An instant counts seconds from the beginning of the year 1970 and nanoseconds within the second.
A nanosecond count of a thousand million or more denotes a leap second, which is only admitted
at the end of a minute. Instants are written in the proleptic Gregorian calendar; the years 0 to
9999 with four digits, all others with a sign.

A day is found from its number by taking off whole cycles: 400 years, then centuries, then four
years, then years that begin with March, so that the leap day is the last day of each cycle that
has one.
-/

namespace GenModel

/-- A point in time, in seconds and nanoseconds from the beginning of 1970. -/
structure Instant where
  seconds : Int
  nanoseconds : Nat
  notBefore : -8334601228800 ≤ seconds
  notAfter : seconds ≤ 8210266876799
  withinSecond : nanoseconds < 1000000000 ∨ nanoseconds < 2000000000 ∧ seconds % 60 = 59

/-- A day of the calendar. -/
structure Date where
  year : Int
  month : Nat
  day : Nat
  deriving DecidableEq, Repr

namespace Date

/-- The number of days from the first of March of the year 0 to the beginning of 1970. -/
def epoch : Int :=
  719468

/-- The date of a day counted from the beginning of 1970. -/
def ofDayNumber (dayNumber : Int) : Date :=
  let cycle := (dayNumber + epoch) / 146097
  let dayOfCycle := ((dayNumber + epoch) % 146097).toNat
  let century := min (dayOfCycle / 36524) 3
  let dayOfCentury := dayOfCycle - century * 36524
  let leapCycle := dayOfCentury / 1461
  let dayOfLeapCycle := dayOfCentury % 1461
  let yearOfLeapCycle := min (dayOfLeapCycle / 365) 3
  let dayOfYear := dayOfLeapCycle - yearOfLeapCycle * 365
  let monthFromMarch := (5 * dayOfYear + 2) / 153
  let yearFromMarch := cycle * 400 + (century * 100 + leapCycle * 4 + yearOfLeapCycle : Nat)
  {
    year := if monthFromMarch < 10 then yearFromMarch else yearFromMarch + 1
    month := if monthFromMarch < 10 then monthFromMarch + 3 else monthFromMarch - 9
    day := dayOfYear - (153 * monthFromMarch + 2) / 5 + 1
  }

/-- The year with at least four digits, and with a sign if it is not one of the years 0 to 9999. -/
def yearText (year : Int) : String :=
  if year < 0 then "-" ++ Text.paddedDecimal 4 year.natAbs
  else if year ≤ 9999 then Text.paddedDecimal 4 year.natAbs
  else "+" ++ Text.paddedDecimal 4 year.natAbs

/-- The date with hyphens between year, month and day. -/
def text (date : Date) : String :=
  yearText date.year ++ "-" ++ Text.paddedDecimal 2 date.month ++ "-" ++
    Text.paddedDecimal 2 date.day

end Date

namespace Instant

/-- The instant of the given counts, if they are admitted. -/
def of? (seconds : Int) (nanoseconds : Nat) : Option Instant :=
  if notBefore : -8334601228800 ≤ seconds then
    if notAfter : seconds ≤ 8210266876799 then
      if withinSecond :
          nanoseconds < 1000000000 ∨ nanoseconds < 2000000000 ∧ seconds % 60 = 59 then
        some ⟨seconds, nanoseconds, notBefore, notAfter, withinSecond⟩
      else none
    else none
  else none

/-- Whether the instant lies in a leap second. -/
def isLeapSecond (instant : Instant) : Bool :=
  decide (1000000000 ≤ instant.nanoseconds)

/-- The date of the instant. -/
def date (instant : Instant) : Date :=
  Date.ofDayNumber (instant.seconds / 86400)

/-- The second of the day. -/
def secondOfDay (instant : Instant) : Nat :=
  (instant.seconds % 86400).toNat

/-- The second of the minute, which is 60 in a leap second. -/
def secondOfMinute (instant : Instant) : Nat :=
  if instant.isLeapSecond then 60 else instant.secondOfDay % 60

/-- The instant as `2024-01-02T03:04:05Z`, to the second. -/
def timestamp (instant : Instant) : String :=
  instant.date.text ++ "T" ++ Text.paddedDecimal 2 (instant.secondOfDay / 3600) ++ ":" ++
    Text.paddedDecimal 2 (instant.secondOfDay / 60 % 60) ++ ":" ++
    Text.paddedDecimal 2 instant.secondOfMinute ++ "Z"

/-- The timestamp with hyphens for colons, which can name a directory. -/
def directoryStamp (instant : Instant) : String :=
  String.ofList (instant.timestamp.toList.map fun c => if c = ':' then '-' else c)

end Instant

end GenModel
