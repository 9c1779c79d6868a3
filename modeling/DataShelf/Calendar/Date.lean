import DataShelf.Text.Hex

/-!
# Dates

The proleptic Gregorian calendar. `Date.ofDays` finds the date that lies a number of days after
1970-01-01, `Date.toDays` counts them again. Both work on years that begin in March, so that a leap
day is the last day of its year; four hundred years are a cycle of 146097 days.
-/

namespace DataShelf.Calendar
set_option autoImplicit false

/-- A day of the calendar. -/
structure Date where
  year : Int
  month : Nat
  day : Nat
  deriving DecidableEq, Inhabited, Repr

namespace Date

/-- The days in four hundred years. -/
def cycleDays : Int := 146097

/-- The days from the first of March of the year 0 to 1970-01-01. -/
def epochShift : Int := 719468

/-- The year of a cycle in which a day of the cycle lies. -/
def yearOfCycle (dayOfCycle : Nat) : Nat :=
  (dayOfCycle - dayOfCycle / 1460 + dayOfCycle / 36524 - dayOfCycle / 146096) / 365

/-- The days of a cycle before one of its years. -/
def daysBeforeYear (year : Nat) : Nat := 365 * year + year / 4 - year / 100

/-- The days of a year before one of its months, counted from March. -/
def daysBeforeMonth (month : Nat) : Nat := (153 * month + 2) / 5

/-- The date that lies some days after 1970-01-01, or before it. -/
def ofDays (days : Int) : Date :=
  let shifted := days + epochShift
  let cycle := shifted.fdiv cycleDays
  let dayOfCycle := (shifted.fmod cycleDays).toNat
  let year := yearOfCycle dayOfCycle
  let dayOfYear := dayOfCycle - daysBeforeYear year
  let month := (5 * dayOfYear + 2) / 153
  let day := dayOfYear - daysBeforeMonth month + 1
  let shiftedYear : Int := cycle * 400 + year
  if month < 10 then ⟨shiftedYear, month + 3, day⟩ else ⟨shiftedYear + 1, month - 9, day⟩

/-- The number of 1970-01-01 where the first day of the year 1 is the day 1. -/
def epochNumber : Int32 := 719163

/-- The date of the day with a number. -/
def ofNumber (number : Int32) : Date := ofDays (number.toInt - epochNumber.toInt)

/-- How many days after 1970-01-01 a date lies. -/
def toDays (d : Date) : Int :=
  let shiftedYear := if d.month ≤ 2 then d.year - 1 else d.year
  let month := if d.month ≤ 2 then d.month + 9 else d.month - 3
  let cycle := shiftedYear.fdiv 400
  let year := (shiftedYear.fmod 400).toNat
  cycle * cycleDays + (daysBeforeYear year + daysBeforeMonth month + (d.day - 1) : Nat) - epochShift

/-- The first and the last year that dates are shown for. -/
def firstYear : Int := -262143

def lastYear : Int := 262142

/-- Whether the year of a date is one that dates are shown for. -/
def inRange (d : Date) : Bool := firstYear ≤ d.year && d.year ≤ lastYear

/-- A year of at least four digits, with a sign unless it lies between 0 and 9999. -/
def renderYear (year : Int) : String :=
  let digits := Text.paddedDecimal 4 year.natAbs
  if year < 0 then "-" ++ digits else if year ≤ 9999 then digits else "+" ++ digits

/-- Year, month and day, with dashes between them. -/
def render (d : Date) : String :=
  renderYear d.year ++ "-" ++ Text.paddedDecimal 2 d.month ++ "-" ++ Text.paddedDecimal 2 d.day

end Date
end DataShelf.Calendar
