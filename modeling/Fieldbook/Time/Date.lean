/-!
# Dates

Dates of the proleptic Gregorian calendar, and their day numbers counted from 1 January 1970.
Years are counted from March, so that the leap day is the last of its year: a day number is
then cut into cycles of four hundred years, years and months by division alone.  A year before
year one is written with its astronomical number, so there is a year zero.
-/

namespace Fieldbook

/-- A date, valid or not. -/
structure Date where
  year : Int
  month : Nat
  day : Nat
deriving DecidableEq

namespace Date

def isLeapYear (year : Int) : Bool := year % 4 = 0 && (year % 100 != 0 || year % 400 = 0)

def daysInMonth (year : Int) (month : Nat) : Nat :=
  if month = 2 then if isLeapYear year then 29 else 28
  else if month = 4 ∨ month = 6 ∨ month = 9 ∨ month = 11 then 30
  else 31

def isValid (d : Date) : Bool :=
  1 ≤ d.month && d.month ≤ 12 && 1 ≤ d.day && d.day ≤ daysInMonth d.year d.month

/-- **The years that can be stored.** -/
def isStorable (d : Date) : Bool := -262143 ≤ d.year && d.year ≤ 262142

/-- The day number of 1 March of the year zero, negated. -/
def epochShift : Int := 719468

/-- Days from the start of a March year to the start of its month, March being month zero. -/
def daysBeforeMonth (month : Int) : Int := (153 * month + 2) / 5

/-- Days from the start of a four-hundred-year cycle to the start of its year. -/
def daysBeforeYear (year : Int) : Int := 365 * year + year / 4 - year / 100

def toDays (d : Date) : Int :=
  let year := if d.month ≤ 2 then d.year - 1 else d.year
  let month : Int := if d.month ≤ 2 then d.month + 9 else d.month - 3
  146097 * (year / 400) + daysBeforeYear (year % 400) + daysBeforeMonth month + (d.day - 1) - epochShift

/-- **The date of a day number.** -/
def ofDays (days : Int) : Date :=
  let shifted := days + epochShift
  let inCycle := shifted % 146097
  let year := (inCycle - inCycle / 1460 + inCycle / 36524 - inCycle / 146096) / 365
  let inYear := inCycle - daysBeforeYear year
  let month := (5 * inYear + 2) / 153
  { year := 400 * (shifted / 146097) + year + (if month < 10 then 0 else 1)
    month := (if month < 10 then month + 3 else month - 9).toNat
    day := (inYear - daysBeforeMonth month + 1).toNat }

end Date

end Fieldbook
