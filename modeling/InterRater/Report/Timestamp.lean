/-!
# Points in time as text

`Timestamp.text` writes a number of seconds since the beginning of 1970 as date and time in UTC.
-/

namespace InterRater

/-- A day of the Gregorian calendar. -/
structure Date where
  year : Nat
  month : Nat
  day : Nat
  deriving DecidableEq, Repr

namespace Date

/-- The date of the day that comes the given number of days after 1 March of the year 0.  Years
are counted from March, so that a leap day is the last day of its year; 400 of them have 146097
days, and every five months from March on have 153. -/
def ofDays (days : Nat) : Date :=
  let era := days / 146097
  let dayOfEra := days % 146097
  let yearOfEra := (dayOfEra - dayOfEra / 1460 + dayOfEra / 36524 - dayOfEra / 146096) / 365
  let dayOfYear := dayOfEra - (365 * yearOfEra + yearOfEra / 4 - yearOfEra / 100)
  let month := (5 * dayOfYear + 2) / 153
  let year := 400 * era + yearOfEra
  { year := if month < 10 then year else year + 1
    month := if month < 10 then month + 3 else month - 9
    day := dayOfYear - (153 * month + 2) / 5 + 1 }

/-- The days from 1 March of the year 0 to the beginning of 1970. -/
def daysBefore1970 : Nat :=
  719468

end Date

namespace Timestamp

/-- A number in at least `width` digits. -/
def padded (width n : Nat) : String :=
  let digits := Nat.toDigits 10 n
  String.ofList (List.replicate (width - digits.length) '0' ++ digits)

/-- Date and time in UTC, the given number of seconds after the beginning of 1970. -/
def text (seconds : Nat) : String :=
  let date := Date.ofDays (seconds / 86400 + Date.daysBefore1970)
  let time := seconds % 86400
  s!"{padded 4 date.year}-{padded 2 date.month}-{padded 2 date.day}T" ++
    s!"{padded 2 (time / 3600)}:{padded 2 (time / 60 % 60)}:{padded 2 (time % 60)}Z"

end Timestamp

end InterRater
