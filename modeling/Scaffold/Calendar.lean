import Scaffold.Decimal.Format

/-!
# Dates

A moment is counted in seconds since the beginning of 1970; its date is that of the Gregorian
calendar, extended to all years. Years are counted from March on, so that the leap day is the last
day of its year, and in eras of 400 years, which all have the same number of days.
-/

namespace Scaffold

/-- A date of the Gregorian calendar. -/
structure Date where
  year : Int
  month : Nat
  day : Nat
  deriving Repr, DecidableEq

namespace Date

/-- The days of an era of 400 years. -/
def daysPerEra : Nat := 146097

/-- The days from the first of March of the year 0 to the beginning of 1970. -/
def daysBefore1970 : Nat := 719468

/-- The year of an era, counted from 0, that a day of the era lies in. -/
def yearOfEra (day : Nat) : Nat := (day - day / 1460 + day / 36524 - day / 146096) / 365

/-- The day of its year, counted from 0 on the first of March. -/
def dayOfYear (day : Nat) : Nat :=
  let year := yearOfEra day
  day - (365 * year + year / 4 - year / 100)

/-- The month of a day of the year, counted from 0 in March. -/
def monthFromMarch (day : Nat) : Nat := (5 * day + 2) / 153

/-- The date that lies a number of days after the first of January 1970. -/
def ofDays (days : Int) : Date :=
  let shifted := days + daysBefore1970
  let era : Int := shifted / daysPerEra
  let day : Nat := (shifted % daysPerEra).toNat
  let fromMarch := monthFromMarch (dayOfYear day)
  let month := if fromMarch < 10 then fromMarch + 3 else fromMarch - 9
  { year := yearOfEra day + era * 400 + (if month ≤ 2 then 1 else 0)
    month := month
    day := dayOfYear day - (153 * fromMarch + 2) / 5 + 1 }

/-- The days from the first of January 1970 to a date. -/
def toDays (date : Date) : Int :=
  let year := if date.month ≤ 2 then date.year - 1 else date.year
  let era := year / 400
  let yearOfEra := year % 400
  let fromMarch := (date.month + 9) % 12
  let dayOfEra := yearOfEra * 365 + yearOfEra / 4 - yearOfEra / 100 +
    ((153 * fromMarch + 2) / 5 + date.day - 1 : Nat)
  era * daysPerEra + dayOfEra - daysBefore1970

/-- The date of a moment. -/
def ofSeconds (seconds : Int) : Date := ofDays (seconds / 86400)

/-- Whether a year has a leap day: every fourth one, of the full centuries only every fourth. -/
def isLeapYear (year : Int) : Bool :=
  year % 4 == 0 && (year % 100 != 0 || year % 400 == 0)

/-- The number of days of a month. -/
def daysOfMonth (year : Int) (month : Nat) : Nat :=
  if month = 2 then if isLeapYear year then 29 else 28
  else if month = 4 ∨ month = 6 ∨ month = 9 ∨ month = 11 then 30
  else 31

/-- Whether the calendar has the date. -/
def isInCalendar (date : Date) : Bool :=
  1 ≤ date.month && date.month ≤ 12 && 1 ≤ date.day &&
    date.day ≤ daysOfMonth date.year date.month

/-- A number with zeros in front of it up to a width. -/
def padded (width n : Nat) : String :=
  let digits := Decimal.integerText n
  String.ofList (List.replicate (width - digits.length) '0') ++ digits

/-- The year with four digits at least; years that are negative or need more have a sign. -/
def yearText (date : Date) : String :=
  if date.year < 0 then "-" ++ padded 4 date.year.natAbs
  else if 9999 < date.year then "+" ++ padded 4 date.year.natAbs
  else padded 4 date.year.natAbs

/-- The month with two digits. -/
def monthText (date : Date) : String := padded 2 date.month

/-- The day with two digits. -/
def dayText (date : Date) : String := padded 2 date.day

/-- Year, month and day with dashes between them. -/
def text (date : Date) : String := date.yearText ++ "-" ++ date.monthText ++ "-" ++ date.dayText

end Date

end Scaffold
