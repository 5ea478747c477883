/-!
# Timestamps

A moment in universal time, counted in seconds from the beginning of 1970, and its date and time of
day in the Gregorian calendar, which is used for all years, before its introduction too. There is a
year 0, and years before it are negative.

Days are counted in a year that begins in March, so that a leap day is the last day of its year, and
in eras of 400 years, all of which have 146097 days.
-/

namespace NativeBuild

/-- A **moment**: whole seconds from the beginning of 1970, and nanoseconds. In a leap second, which
the count of seconds does not know, the nanoseconds go on past one second. -/
structure Timestamp where
  seconds : Int
  nanos : Nat
  deriving DecidableEq, Repr

/-- A day in the calendar. -/
structure Date where
  year : Int
  month : Nat
  day : Nat
  deriving DecidableEq, Repr

namespace Date

/-- The days of an era of 400 years. -/
def daysPerEra : Nat := 146097

/-- The year in its era, by the number of a day in the era, with years that begin in March. -/
def yearOfEra (day : Nat) : Nat :=
  (day - day / 1460 + day / 36524 - day / 146096) / 365

/-- The date of a day, counted from the beginning of 1970. -/
def ofDays (days : Int) : Date :=
  -- the day counted from the first of March of the year 0
  let z := days + 719468
  let era := z / daysPerEra
  let dayOfEra := (z % daysPerEra).toNat
  let year := yearOfEra dayOfEra
  let dayOfYear := dayOfEra - (365 * year + year / 4 - year / 100)
  let fromMarch := (5 * dayOfYear + 2) / 153
  let day := dayOfYear - (153 * fromMarch + 2) / 5 + 1
  let month := if fromMarch < 10 then fromMarch + 3 else fromMarch - 9
  ⟨year + era * 400 + (if month ≤ 2 then 1 else 0), month, day⟩

end Date

namespace Timestamp

/-- The date of a moment. -/
def date (t : Timestamp) : Date := .ofDays (t.seconds / 86400)

/-- The second of the day, from midnight. -/
def secondOfDay (t : Timestamp) : Nat := (t.seconds % 86400).toNat

/-- A number with zeros in front, to at least `width` digits. -/
def padded (width n : Nat) : String :=
  let digits := Nat.toDigits 10 n
  String.ofList (List.replicate (width - digits.length) '0' ++ digits)

/-- A year in four digits; one that needs more, or is negative, has its sign in front. -/
def yearText (year : Int) : String :=
  if year < 0 then "-" ++ padded 4 year.natAbs
  else if year > 9999 then "+" ++ padded 4 year.natAbs
  else padded 4 year.natAbs

/-- The moment as text, to the second: date and time of day in universal time. -/
def text (t : Timestamp) : String :=
  let second := t.secondOfDay
  yearText t.date.year ++ "-" ++ padded 2 t.date.month ++ "-" ++ padded 2 t.date.day ++ "T" ++
    padded 2 (second / 3600) ++ ":" ++ padded 2 (second / 60 % 60) ++ ":" ++
    padded 2 (second % 60 + t.nanos / 1000000000) ++ "Z"

end Timestamp

end NativeBuild
