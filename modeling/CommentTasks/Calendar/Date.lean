/-!
# Dates

Days of the Gregorian calendar, extended to all years from 1 to 9999, and their numbers: day 0 is
the first of January of year 1.
-/

namespace CommentTasks

/-- The year has 366 days. -/
def isLeapYear (year : Nat) : Bool := year % 4 = 0 && (year % 100 ≠ 0 || year % 400 = 0)

/-- The lengths of the months of a year. -/
def monthLengths (year : Nat) : List Nat :=
  [31, if isLeapYear year then 29 else 28, 31, 30, 31, 30, 31, 31, 30, 31, 30, 31]

/-- A day of the calendar. -/
structure Date where
  year : Nat
  month : Nat
  day : Nat
  deriving DecidableEq, Repr

namespace Date

/-- The last year. -/
def maxYear : Nat := 9999

/-- What keeps three numbers from being a day of the calendar. -/
inductive Fault
  | year (n : Nat)
  | month
  | day
  deriving DecidableEq, Repr

/-- The day of three numbers. -/
def make (year month day : Nat) : Except Fault Date :=
  if year < 1 ∨ maxYear < year then .error (.year year)
  else if month < 1 ∨ 12 < month then .error .month
  else if day < 1 ∨ ((monthLengths year)[month - 1]?).getD 0 < day then .error .day
  else .ok ⟨year, month, day⟩

/-- The number of days before a year. -/
def daysBeforeYear (year : Nat) : Nat :=
  let y := year - 1
  365 * y + y / 4 - y / 100 + y / 400

/-- The number of a day. -/
def number (d : Date) : Nat :=
  daysBeforeYear d.year + ((monthLengths d.year).take (d.month - 1)).foldl (· + ·) 0 + (d.day - 1)

/-- The month and the day of a day of the year, both counted from one, given the lengths of the
months from `month` on. -/
def monthAndDay (month : Nat) (dayOfYear : Nat) : List Nat → Nat × Nat
  | [] => (month, dayOfYear + 1)
  | length :: rest =>
    if dayOfYear < length then (month, dayOfYear + 1)
    else monthAndDay (month + 1) (dayOfYear - length) rest

/-- The day with a number: whole periods of 400, 100, 4 and 1 years are taken off in turn, and the
last day of a period does not begin a further part of it. -/
def ofNumber (n : Nat) : Date :=
  let n400 := n / 146097
  let r400 := n % 146097
  let n100 := min (r400 / 36524) 3
  let r100 := r400 - 36524 * n100
  let n4 := r100 / 1461
  let r4 := r100 % 1461
  let n1 := min (r4 / 365) 3
  let dayOfYear := r4 - 365 * n1
  let year := 400 * n400 + 100 * n100 + 4 * n4 + n1 + 1
  let (month, day) := monthAndDay 1 dayOfYear (monthLengths year)
  ⟨year, month, day⟩

/-- The number of days of the calendar. -/
def count : Nat := daysBeforeYear (maxYear + 1)

end Date

end CommentTasks
