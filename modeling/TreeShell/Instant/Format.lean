import TreeShell.Instant
import TreeShell.Text.Numeral

/-!
# Written instants

The forms in which dates and instants are shown: with and without the zone, with a fraction of
as many digits as needed, and in the words of the calendar.
-/

namespace TreeShell

open Text (padLeft zeroPad)

/-- A year has four digits; outside 0 to 9999 it has a sign and at least four digits. -/
def Date.yearText (year : Int) : String :=
  if 0 ≤ year ∧ year ≤ 9999 then zeroPad 4 year.toNat
  else if 0 ≤ year then "+" ++ zeroPad 4 year.toNat
  else "-" ++ zeroPad 4 year.natAbs

/-- Year, month and day with dashes between them. -/
def Date.text (date : Date) : String :=
  yearText date.year ++ "-" ++ zeroPad 2 date.month ++ "-" ++ zeroPad 2 date.day

def Date.monthName (month : Nat) : String :=
  ["Jan", "Feb", "Mar", "Apr", "May", "Jun", "Jul", "Aug", "Sep", "Oct", "Nov", "Dec"].getD
    (month - 1) ""

def Date.weekdayName (weekday : Nat) : String :=
  ["Sun", "Mon", "Tue", "Wed", "Thu", "Fri", "Sat"].getD weekday ""

namespace Instant

def timeText (instant : Instant) : String :=
  zeroPad 2 instant.hour ++ ":" ++ zeroPad 2 instant.minute ++ ":" ++ zeroPad 2 instant.second

/-- Date and time without fraction and zone. -/
def dateTimeText (instant : Instant) : String :=
  instant.date.text ++ "T" ++ instant.timeText

/-- The fraction of a second with none, three, six or nine digits: the fewest that are exact. -/
def shortFraction (instant : Instant) : String :=
  let fraction := instant.fraction
  if fraction = 0 then ""
  else if fraction % 1000000 = 0 then "." ++ zeroPad 3 (fraction / 1000000)
  else if fraction % 1000 = 0 then "." ++ zeroPad 6 (fraction / 1000)
  else "." ++ zeroPad 9 fraction

/-- The form kept in documents: the shortest exact fraction, and `Z` for universal time. -/
def text (instant : Instant) : String :=
  instant.dateTimeText ++ instant.shortFraction ++ "Z"

/-- The form shown to people: as in documents, with the offset in figures. -/
def offsetText (instant : Instant) : String :=
  instant.dateTimeText ++ instant.shortFraction ++ "+00:00"

/-- Month, day and time, as in a long listing. -/
def listingText (instant : Instant) : String :=
  Date.monthName instant.date.month ++ " " ++ padLeft 2 (toString instant.date.day) ++ " " ++
    zeroPad 2 instant.hour ++ ":" ++ zeroPad 2 instant.minute

/-- Day of the week, month, day, time, offset and year. -/
def calendarText (instant : Instant) : String :=
  Date.weekdayName (Date.weekday instant.days) ++ " " ++ Date.monthName instant.date.month ++
    " " ++ padLeft 2 (toString instant.date.day) ++ " " ++ instant.timeText ++ " +00:00 " ++
    Date.yearText instant.date.year

end Instant

end TreeShell
