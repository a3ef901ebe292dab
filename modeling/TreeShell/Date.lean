/-!
# Calendar dates

Days of the Gregorian calendar, carried on to all years, counted from 1970-01-01. The count
goes by cycles of 400 years that begin on the first of March, so that a leap day is the last
day of its year.
-/

namespace TreeShell

/-- A year, a month from 1 to 12 and a day of the month from 1. -/
structure Date where
  year : Int
  month : Nat
  day : Nat
deriving DecidableEq, Repr

namespace Date

def isLeap (year : Int) : Bool :=
  year % 4 == 0 && (year % 100 != 0 || year % 400 == 0)

def daysInMonth (year : Int) (month : Nat) : Nat :=
  if month = 2 then (if isLeap year then 29 else 28)
  else if month = 4 ∨ month = 6 ∨ month = 9 ∨ month = 11 then 30
  else 31

def yearInRange (year : Int) : Bool :=
  -262143 ≤ year && year ≤ 262142

def isValid (date : Date) : Bool :=
  yearInRange date.year && 1 ≤ date.month && date.month ≤ 12 && 1 ≤ date.day &&
    date.day ≤ daysInMonth date.year date.month

/-- The days from 1970-01-01 to a date. -/
def toDays (date : Date) : Int :=
  let marchYear := if date.month ≤ 2 then date.year - 1 else date.year
  let cycle := marchYear / 400
  let yearOfCycle := marchYear % 400
  let marchMonth : Int := (((date.month + 9) % 12 : Nat) : Int)
  let dayOfYear := (153 * marchMonth + 2) / 5 + (date.day : Int) - 1
  let dayOfCycle := yearOfCycle * 365 + yearOfCycle / 4 - yearOfCycle / 100 + dayOfYear
  cycle * 146097 + dayOfCycle - 719468

/-- The date that lies a number of days after 1970-01-01. -/
def ofDays (days : Int) : Date :=
  let shifted := days + 719468
  let cycle := shifted / 146097
  let dayOfCycle := (shifted % 146097).toNat
  let yearOfCycle :=
    (dayOfCycle - dayOfCycle / 1460 + dayOfCycle / 36524 - dayOfCycle / 146096) / 365
  let dayOfYear := dayOfCycle - (365 * yearOfCycle + yearOfCycle / 4 - yearOfCycle / 100)
  let marchMonth := (5 * dayOfYear + 2) / 153
  let month := if marchMonth < 10 then marchMonth + 3 else marchMonth - 9
  let year := cycle * 400 + (yearOfCycle : Int)
  { year := if month ≤ 2 then year + 1 else year
    month
    day := dayOfYear - (153 * marchMonth + 2) / 5 + 1 }

/-- The day of the week of a day count, Sunday being 0. -/
def weekday (days : Int) : Nat :=
  ((days + 4) % 7).toNat

/-- The earliest and the latest day count. -/
def firstDay : Int := toDays { year := -262143, month := 1, day := 1 }

@[inherit_doc firstDay]
def lastDay : Int := toDays { year := 262142, month := 12, day := 31 }

end Date

end TreeShell
