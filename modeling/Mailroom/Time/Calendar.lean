/-!
# Calendar days

Days are counted from the first of January 1970, and dates follow the Gregorian rule for leap
years in both directions. A year is found between the day on which it starts and the day on which
the next one starts; a month is found by taking the lengths of the months before it off the day
of the year.
-/

namespace Mailroom.Calendar

/-- A calendar date. -/
structure Date where
  /-- The year; zero and the years before it are counted as integers. -/
  year : Int
  /-- The month, one to twelve. -/
  month : Nat
  /-- The day of the month, from one. -/
  day : Nat
  deriving DecidableEq

/-- Whether a year has a leap day. -/
def isLeap (year : Int) : Bool := year % 4 = 0 && (year % 100 ≠ 0 || year % 400 = 0)

/-- The day, counted from the start of year zero, on which a year starts. -/
def yearStart (year : Int) : Int :=
  365 * year + (year - 1) / 4 - (year - 1) / 100 + (year - 1) / 400 + 1

/-- The day of the count on which 1970 starts, from the start of year zero. -/
def epoch : Int := yearStart 1970

/-- The lengths of the months of a year. -/
def monthLengths (leap : Bool) : List Nat :=
  [31, if leap then 29 else 28, 31, 30, 31, 30, 31, 31, 30, 31, 30, 31]

/-- The days of a year before a month. -/
def daysBefore (leap : Bool) (month : Nat) : Nat :=
  ((monthLengths leap).take (month - 1)).foldl (· + ·) 0

/-- How long a month is; zero if there is no such month. -/
def monthLength (leap : Bool) (month : Nat) : Nat :=
  if month = 0 then 0 else (monthLengths leap).getD (month - 1) 0

/-- Whether the calendar has a date. -/
def Date.exists (date : Date) : Bool :=
  1 ≤ date.day && date.day ≤ monthLength (isLeap date.year) date.month

/-- The day of a date, counted from the start of 1970. -/
def Date.toDay (date : Date) : Int :=
  yearStart date.year - epoch + (daysBefore (isLeap date.year) date.month + (date.day - 1) : Nat)

/-- The year in which a day, counted from the start of year zero, lies. The estimate is off by at
most one. -/
def yearOf (day : Int) : Int :=
  let guess := day * 400 / 146097
  if day < yearStart guess then guess - 1
  else if yearStart (guess + 1) ≤ day then guess + 1
  else guess

/-- The month and day, both from one, for a day of the year counted from zero. -/
def monthOf : List Nat → Nat → Nat → Nat × Nat
  | [], month, rest => (month, rest + 1)
  | length :: lengths, month, rest =>
    if rest < length then (month, rest + 1) else monthOf lengths (month + 1) (rest - length)

/-- The date of a day counted from the start of 1970. -/
def Date.ofDay (day : Int) : Date :=
  let year := yearOf (day + epoch)
  let (month, date) := monthOf (monthLengths (isLeap year)) 1 (day + epoch - yearStart year).toNat
  ⟨year, month, date⟩

end Mailroom.Calendar
