/-!
# The Gregorian calendar

Days are numbered from 1970-01-01; the calendar is continued before its
introduction and before the year 1.

* `Date`, `Date.isValid`: a year, a month and a day of the month;
* `Date.toDay`, `Date.ofDay`: between dates and day numbers;
* `weekday`: days since the last Monday;
* `Date.monthsBefore`: the same day some months earlier.
-/

namespace IssueSearch.Time

/-- A date of the Gregorian calendar. -/
structure Date where
  year : Int
  /-- From 1 to 12. -/
  month : Nat
  /-- From 1. -/
  day : Nat
  deriving Repr, DecidableEq, Inhabited

/-! ## Years and months -/

/-- Whether a year has a 29th of February. -/
def isLeapYear (year : Int) : Bool :=
  year % 4 == 0 && (year % 100 != 0 || year % 400 == 0)

/-- The number of days from the first day of the year 1 to the first day of a
year. -/
def daysBeforeYear (year : Int) : Int :=
  let past := year - 1
  365 * past + past / 4 - past / 100 + past / 400

/-- The number of days of a year before the first day of a month. -/
def daysBeforeMonth (leap : Bool) (month : Nat) : Nat :=
  let leapDay := if leap then 1 else 0
  match month with
  | 0 => 0
  | 1 => 0
  | 2 => 31
  | 3 => 59 + leapDay
  | 4 => 90 + leapDay
  | 5 => 120 + leapDay
  | 6 => 151 + leapDay
  | 7 => 181 + leapDay
  | 8 => 212 + leapDay
  | 9 => 243 + leapDay
  | 10 => 273 + leapDay
  | 11 => 304 + leapDay
  | 12 => 334 + leapDay
  | _ => 365 + leapDay

/-- The number of days of a month. -/
def daysInMonth (leap : Bool) (month : Nat) : Nat :=
  daysBeforeMonth leap (month + 1) - daysBeforeMonth leap month

/-- The months of a year, in order. -/
def months : List Nat :=
  [1, 2, 3, 4, 5, 6, 7, 8, 9, 10, 11, 12]

/-! ## Days -/

/-- The number of days from the first day of the year 1 to 1970-01-01. -/
def epochDay : Int :=
  719162

/-- The year of the day that is `n` days after the first day of the year 1. -/
def yearOf (n : Int) : Int :=
  let guess := n * 400 / 146097 + 1
  if n < daysBeforeYear guess then guess - 1
  else if daysBeforeYear (guess + 1) ≤ n then guess + 1
  else guess

/-- The month of the day that is `n` days after the first day of its year: the
number of months that have begun. -/
def monthOf (leap : Bool) (n : Nat) : Nat :=
  (months.filter fun month => daysBeforeMonth leap month ≤ n).length

namespace Date

/-- Whether the month and the day of the month exist. -/
def isValid (date : Date) : Bool :=
  1 ≤ date.month && date.month ≤ 12 && 1 ≤ date.day &&
    date.day ≤ daysInMonth (isLeapYear date.year) date.month

/-- The number of a date. -/
def toDay (date : Date) : Int :=
  daysBeforeYear date.year + daysBeforeMonth (isLeapYear date.year) date.month +
    (date.day - 1) - epochDay

/-- The date of a day number. -/
def ofDay (day : Int) : Date :=
  let n := day + epochDay
  let year := yearOf n
  let leap := isLeapYear year
  let ordinal := (n - daysBeforeYear year).toNat
  let month := monthOf leap ordinal
  { year, month, day := ordinal - daysBeforeMonth leap month + 1 }

/-- The date some months earlier, with the day of the month or, in a shorter
month, its last day. -/
def monthsBefore (date : Date) (count : Nat) : Date :=
  let index := date.year * 12 + (date.month - 1 : Int) - count
  let year := index / 12
  let month := (index % 12).toNat + 1
  { year, month, day := min date.day (daysInMonth (isLeapYear year) month) }

end Date

/-- The number of days since the last Monday. -/
def weekday (day : Int) : Int :=
  (day + 3) % 7

end IssueSearch.Time
