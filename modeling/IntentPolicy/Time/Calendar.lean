namespace IntentPolicy

/-!
# The Gregorian calendar

Dates and day numbers, where day zero is 1970-01-01.  A year is found from a day by a
guess that is off by at most one, a month by walking along the lengths of the months.
-/

/-- A date of the Gregorian calendar, extended to all years. -/
structure Date where
  year : Int
  month : Nat
  day : Nat
  deriving Repr, DecidableEq

/-- The year has a twenty-ninth of February. -/
def isLeapYear (year : Int) : Bool :=
  year % 4 == 0 && (year % 100 != 0 || year % 400 == 0)

/-- The number of days of each month of a year. -/
def monthLengths (year : Int) : List Nat :=
  [31, if isLeapYear year then 29 else 28, 31, 30, 31, 30, 31, 31, 30, 31, 30, 31]

/-- The number of days from the first day of the year 0 to the first day of a year. -/
def daysBeforeYear (year : Int) : Int :=
  365 * year + (year + 3) / 4 - (year + 99) / 100 + (year + 399) / 400

/-- The number of days from the first day of the year 0 to day zero. -/
def epochDay : Int := 719528

/-- The year that holds a day counted from the first day of the year 0. -/
def yearOfDay (day : Int) : Int :=
  let guess := day * 400 / 146097
  if daysBeforeYear (guess + 1) ≤ day then guess + 1
  else if day < daysBeforeYear guess then guess - 1
  else guess

/-- Split a day of the year, counted from zero, into the number of whole months and the rest. -/
def splitMonths : List Nat → Nat → Nat × Nat
  | [], day => (0, day)
  | length :: lengths, day =>
      if day < length then (0, day)
      else
        let (months, rest) := splitMonths lengths (day - length)
        (months + 1, rest)

namespace Date

/-- The day number of a date. -/
def dayNumber (date : Date) : Int :=
  let earlierMonths := (monthLengths date.year).take (date.month - 1)
  daysBeforeYear date.year + (earlierMonths.foldl (· + ·) date.day : Nat) - 1 - epochDay

/-- The date of a day number. -/
def ofDayNumber (number : Int) : Date :=
  let day := number + epochDay
  let year := yearOfDay day
  let (months, rest) := splitMonths (monthLengths year) (day - daysBeforeYear year).toNat
  ⟨year, months + 1, rest + 1⟩

/-- The month and the day exist. -/
def isValid (date : Date) : Bool :=
  1 ≤ date.month && date.month ≤ 12 && 1 ≤ date.day &&
    date.day ≤ (monthLengths date.year)[date.month - 1]?.getD 0

end Date

end IntentPolicy
