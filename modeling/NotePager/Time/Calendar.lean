/-!
# The Gregorian calendar

Days are counted from the first of January of the year 0, in the calendar carried back without a
reform. `Date.ofDays` and `Date.toDays` go between a day's number and its year, month and day.
-/

namespace NotePager

/-- A day by year, month and day of the month, both from 1. -/
structure Date where
  year : Int
  month : Nat
  day : Nat
  deriving DecidableEq, Repr

namespace Date

/-- Every fourth year is a leap year, but of the full centuries only every fourth. -/
def isLeapYear (year : Int) : Bool := year % 4 == 0 && (year % 100 != 0 || year % 400 == 0)

/-- The lengths of the months of a year. -/
def monthLengths (year : Int) : List Nat :=
  [31, if isLeapYear year then 29 else 28, 31, 30, 31, 30, 31, 31, 30, 31, 30, 31]

/-- The number of days before the year begins. -/
def daysBeforeYear (year : Int) : Int :=
  365 * year + (year + 3) / 4 - (year + 99) / 100 + (year + 399) / 400

/-- The year that holds the day. Four centuries have 146097 days, so the quotient is right or one
year short. -/
def yearOf (days : Int) : Int :=
  let year := (400 * (days - 2)) / 146097
  if daysBeforeYear (year + 1) ≤ days then year + 1 else year

/-- Walk through months of the given lengths to the day with this index: the month, counted on from
`month`, and the day's index in it. -/
def monthOf : List Nat → Nat → Nat → Nat × Nat
  | [], month, index => (month, index)
  | length :: lengths, month, index =>
    if index < length then (month, index) else monthOf lengths (month + 1) (index - length)

/-- The date of the day with this number. -/
def ofDays (days : Int) : Date :=
  let year := yearOf days
  let (month, index) := monthOf (monthLengths year) 1 (days - daysBeforeYear year).toNat
  ⟨year, month, index + 1⟩

/-- The number of the day. -/
def toDays (d : Date) : Int :=
  let wholeMonths := (monthLengths d.year).take (d.month - 1)
  daysBeforeYear d.year + wholeMonths.foldl Nat.add 0 + d.day - 1

/-- The month has this day, and the year this month. -/
def isValid (d : Date) : Bool :=
  1 ≤ d.month && 1 ≤ d.day && decide (d.day ≤ (monthLengths d.year).getD (d.month - 1) 0)

end Date

end NotePager
