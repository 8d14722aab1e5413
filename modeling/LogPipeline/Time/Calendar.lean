import LogPipeline.Number.Total

/-!
# Calendar

Dates of the Gregorian calendar, extended to all years, and the days that lie before them. Days
are counted from the first of January of the year zero.
-/

namespace LogPipeline

def isLeapYear (year : Int) : Bool :=
  year % 4 = 0 && (year % 100 ≠ 0 || year % 400 = 0)

def monthLengths (year : Int) : List Nat :=
  [31, if isLeapYear year then 29 else 28, 31, 30, 31, 30, 31, 31, 30, 31, 30, 31]

def daysBeforeYear (year : Int) : Int :=
  365 * year + (year + 3) / 4 - (year + 99) / 100 + (year + 399) / 400

structure Date where
  year : Int
  /-- From 1 to 12. -/
  month : Nat
  /-- From 1. -/
  day : Nat
  deriving DecidableEq, Repr

namespace Date

/-- The month that holds the day of this number, and the day within it, both counted from zero. -/
def splitMonths : List Nat → Nat → Nat × Nat
  | [], n => (0, n)
  | length :: rest, n =>
    if n < length then (0, n)
    else
      let (month, day) := splitMonths rest (n - length)
      (month + 1, day)

/-- The year that holds a day. The mean length of a year gives it, or one of its neighbours. -/
def yearOfDay (day : Int) : Int :=
  let guess := 400 * day / 146097
  if day < daysBeforeYear guess then guess - 1
  else if daysBeforeYear (guess + 1) ≤ day then guess + 1
  else guess

def ofDayNumber (day : Int) : Date :=
  let year := yearOfDay day
  let (month, day) := splitMonths (monthLengths year) (day - daysBeforeYear year).toNat
  ⟨year, month + 1, day + 1⟩

def isValid (d : Date) : Bool :=
  1 ≤ d.month && d.month ≤ 12 && 1 ≤ d.day && d.day ≤ (monthLengths d.year).getD (d.month - 1) 0

def dayNumber (d : Date) : Int :=
  daysBeforeYear d.year + Number.total ((monthLengths d.year).take (d.month - 1)) + (d.day - 1 : Nat)

end Date

end LogPipeline
