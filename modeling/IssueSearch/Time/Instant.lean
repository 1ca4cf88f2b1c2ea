import IssueSearch.Time.Calendar

/-!
# Instants

A point in time, in UTC, to the nanosecond.  An instant inside a leap second
belongs to the second before it and has a billion nanoseconds or more.

* `Instant`, `Instant.ofMillis`: the type, and a clock that counts milliseconds;
* `Instant.isSupported`: the years that calculations stay within;
* `Instant.later?`, `Instant.earlier?`, `Instant.monthsEarlier?`: calculations;
* `Instant.startOfDay`, `Instant.startOfMonth`, `Instant.daysSinceMonday`: the
  boundaries of the calendar;
* `Instant.isRepresentable`: the years that a written date can name.
-/

namespace IssueSearch.Time

/-- The number of seconds of a day. -/
def secondsPerDay : Int :=
  86400

/-- The number of nanoseconds of a second. -/
def nanosPerSecond : Nat :=
  1000000000

/-- A point in time. -/
structure Instant where
  /-- Whole seconds since the start of 1970. -/
  seconds : Int
  /-- Nanoseconds into the second; a billion or more inside a leap second. -/
  nanos : Nat
  deriving Repr, DecidableEq, Inhabited

namespace Instant

/-- The instant some milliseconds after the start of 1970. -/
def ofMillis (millis : Int) : Instant where
  seconds := millis / 1000
  nanos := (millis % 1000).toNat * 1000000

/-- The start of a day. -/
def ofDay (day : Int) : Instant where
  seconds := day * secondsPerDay
  nanos := 0

/-- The number of the day. -/
def day (moment : Instant) : Int :=
  moment.seconds / secondsPerDay

/-- Whole seconds since the start of the day. -/
def secondOfDay (moment : Instant) : Nat :=
  (moment.seconds % secondsPerDay).toNat

/-- The date. -/
def date (moment : Instant) : Date :=
  Date.ofDay moment.day

/-- The year. -/
def year (moment : Instant) : Int :=
  moment.date.year

/-- Whether the instant lies in the years from -262143 to 262142. -/
def isSupported (moment : Instant) : Bool :=
  -8334601228800 ≤ moment.seconds && moment.seconds ≤ 8210266876799

/-- Whether the year can be written with four digits and is not the year 0. -/
def isRepresentable (moment : Instant) : Bool :=
  1 ≤ moment.year && moment.year ≤ 9999

/-- The instant, if it is one of the supported years. -/
def checked? (moment : Instant) : Option Instant :=
  if moment.isSupported then some moment else none

/-- The instant some seconds later.  What leaves a leap second forgets it. -/
def later? (moment : Instant) (seconds : Nat) : Option Instant :=
  checked?
    { seconds := moment.seconds + seconds
      nanos := if 0 < seconds then moment.nanos % nanosPerSecond else moment.nanos }

/-- The instant some seconds earlier.  What leaves a leap second forgets it. -/
def earlier? (moment : Instant) (seconds : Nat) : Option Instant :=
  let inLeap := nanosPerSecond ≤ moment.nanos && 0 < seconds
  checked?
    { seconds := moment.seconds - seconds + (if inLeap then 1 else 0)
      nanos := if inLeap then moment.nanos - nanosPerSecond else moment.nanos }

/-- The instant one day later. -/
def nextDay? (moment : Instant) : Option Instant :=
  moment.later? secondsPerDay.toNat

/-- The same time of day some calendar months earlier. -/
def monthsEarlier? (moment : Instant) (count : Nat) : Option Instant :=
  let date := moment.date.monthsBefore count
  checked?
    { seconds := date.toDay * secondsPerDay + moment.secondOfDay
      nanos := moment.nanos }

/-- The last midnight. -/
def startOfDay (moment : Instant) : Instant :=
  ofDay moment.day

/-- The last start of a month. -/
def startOfMonth (moment : Instant) : Instant :=
  ofDay { moment.date with day := 1 }.toDay

/-- The number of days since the last Monday. -/
def daysSinceMonday (moment : Instant) : Nat :=
  (weekday moment.day).toNat

end Instant

end IssueSearch.Time
