import IssueSearch.Text.Blank
import IssueSearch.Text.Integer
import IssueSearch.Time.Instant

/-!
# Written dates

Dates with or without a time of day.  A date is read in one of three forms, in
this order:

1. `YYYY-MM-DD`, a `T` or a blank, `HH:MM:SS`, an optional fraction, and `Z` or
   an offset `±HH:MM`, all with a fixed number of digits;
2. a date and a time of day without offset, where numbers may be shorter;
3. a date alone, which stands for its first instant.

It is written in the first form, in UTC, with three digits of the second.

* `readStrict?`, `readLocal?`, `readDay?`, `readDate?`: the forms;
* `readLenient?`: the first form with blanks and shorter numbers, in which
  saved searches hold their time;
* `writeMillis`, `writeShortest`: writing with three digits of the second, or as
  many as are needed.
-/

namespace IssueSearch.Time

open Text (digitsValue isBlank trimStart)

/-! ## Numbers -/

/-- The digits at the start of a text, at most `most` of them. -/
def leadingDigits (most : Nat) (text : List Char) : List Char :=
  (text.take most).takeWhile Char.isDigit

/-- A number of at least `least` and at most `most` digits, with what
follows. -/
def readNumber? (least most : Nat) (text : List Char) : Option (Nat × List Char) :=
  let digits := leadingDigits most text
  if least ≤ digits.length then some (digitsValue digits, text.drop digits.length) else none

/-- A number of any length, with what follows. -/
def readLongNumber? (text : List Char) : Option (Nat × List Char) :=
  readNumber? 1 text.length text

/-- A given character. -/
def readChar? (wanted : Char) : List Char → Option (List Char)
  | c :: rest => if c = wanted then some rest else none
  | [] => none

/-- The fraction of a second after a point: up to nine digits count, further
ones are passed over. -/
def readNanos? (text : List Char) : Option (Nat × List Char) := do
  let (value, rest) ← readNumber? 1 9 text
  let scale := Nat.pow 10 (9 - (leadingDigits 9 text).length)
  some (value * scale, rest.dropWhile Char.isDigit)

/-- The fraction of a second, if there is one. -/
def readFraction? : List Char → Option (Nat × List Char)
  | '.' :: rest => readNanos? rest
  | text => some (0, text)

/-! ## Dates and times of day -/

/-- The instant of a date and a time of day.  The second 60 is a leap second. -/
def instantOf? (date : Date) (hour minute second nanos : Nat) : Option Instant :=
  if date.isValid && hour ≤ 23 && minute ≤ 59 && second ≤ 60 then
    let leap := second = 60
    some {
      seconds := date.toDay * secondsPerDay + hour * 3600 + minute * 60 +
        (if leap then 59 else second)
      nanos := if leap then nanos + nanosPerSecond else nanos }
  else none

/-- The first instant of a date. -/
def startOf? (date : Date) : Option Instant :=
  instantOf? date 0 0 0 0

/-- The difference to UTC in seconds: `Z`, or a sign, hours, whatever `between`
takes, and minutes. -/
def readOffset? (between : List Char → Option (List Char)) :
    List Char → Option (Int × List Char)
  | [] => none
  | sign :: rest =>
      if sign = 'Z' || sign = 'z' then some (0, rest)
      else if sign = '+' || sign = '-' || sign = '−' then do
        let (hours, rest) ← readNumber? 2 2 rest
        let rest ← between rest
        let (minutes, rest) ← readNumber? 2 2 rest
        if hours ≤ 23 && minutes ≤ 59 then
          let size : Int := hours * 3600 + minutes * 60
          some (if sign = '+' then size else -size, rest)
        else none
      else none

/-- The instant that local clocks at a distance to UTC show as `moment`. -/
def Instant.atOffset (moment : Instant) (offset : Int) : Instant :=
  { moment with seconds := moment.seconds - offset }

/-! ## The forms -/

/-- The first form: date, time of day and offset with a fixed number of
digits. -/
def readStrict? (text : List Char) : Option Instant := do
  let (year, rest) ← readNumber? 4 4 text
  let rest ← readChar? '-' rest
  let (month, rest) ← readNumber? 2 2 rest
  let rest ← readChar? '-' rest
  let (day, rest) ← readNumber? 2 2 rest
  let rest ← (readChar? 'T' rest).or ((readChar? 't' rest).or (readChar? ' ' rest))
  let (hour, rest) ← readNumber? 2 2 rest
  let rest ← readChar? ':' rest
  let (minute, rest) ← readNumber? 2 2 rest
  let rest ← readChar? ':' rest
  let (second, rest) ← readNumber? 2 2 rest
  let (nanos, rest) ← readFraction? rest
  let (offset, rest) ← readOffset? (readChar? ':') rest
  if rest.isEmpty then
    let moment ← instantOf? ⟨year, month, day⟩ hour minute second nanos
    some (moment.atOffset offset)
  else none

/-- A year of at most four digits, or of any number of digits after a sign. -/
def readYear? (text : List Char) : Option (Int × List Char) :=
  match trimStart text with
  | '-' :: rest => (readLongNumber? rest).map fun (year, rest) => (-(year : Int), rest)
  | '+' :: rest => (readLongNumber? rest).map fun (year, rest) => ((year : Int), rest)
  | rest => (readNumber? 1 4 rest).map fun (year, rest) => ((year : Int), rest)

/-- A number of one or two digits after any blanks. -/
def readShort? (text : List Char) : Option (Nat × List Char) :=
  readNumber? 1 2 (trimStart text)

/-- A date, where `gap` takes what may stand before a dash. -/
def readDay? (gap : List Char → List Char) (text : List Char) : Option (Date × List Char) := do
  let (year, rest) ← readYear? text
  let rest ← readChar? '-' (gap rest)
  let (month, rest) ← readShort? rest
  let rest ← readChar? '-' (gap rest)
  let (day, rest) ← readShort? rest
  some (⟨year, month, day⟩, rest)

/-- A time of day on a date, where `gap` takes what may stand before a colon. -/
def readTime? (gap : List Char → List Char) (date : Date) (text : List Char) :
    Option (Instant × List Char) := do
  let (hour, rest) ← readShort? text
  let rest ← readChar? ':' (gap rest)
  let (minute, rest) ← readShort? rest
  let rest ← readChar? ':' (gap rest)
  let (second, rest) ← readShort? rest
  let (nanos, rest) ← readFraction? rest
  let moment ← instantOf? date hour minute second nanos
  some (moment, rest)

/-- The second form: a date and a time of day in UTC. -/
def readLocal? (text : List Char) : Option Instant := do
  let (date, rest) ← readDay? id text
  let rest ← readChar? 'T' rest
  let (moment, rest) ← readTime? id date rest
  if rest.isEmpty then some moment else none

/-- The third form: a date alone. -/
def readDate? (text : List Char) : Option Instant := do
  let (date, rest) ← readDay? id text
  if rest.isEmpty then startOf? date else none

/-- A date in the first of the three forms that fits. -/
def readAbsolute? (text : List Char) : Option Instant :=
  (readStrict? text).or ((readLocal? text).or (readDate? text))

/-- The first form with blanks between its parts, shorter numbers, any colons
and blanks or none inside the offset, and `UTC` as an offset. -/
def readLenient? (text : List Char) : Option Instant := do
  let (date, rest) ← readDay? trimStart text
  let rest ← (readChar? 'T' rest).or ((readChar? 't' rest).or (readChar? ' ' rest))
  let (moment, rest) ← readTime? trimStart date rest
  let rest := trimStart rest
  let between := fun rest => some (rest.dropWhile fun c => c = ':' || isBlank c)
  let (offset, rest) ←
    if (rest.take 3).map Char.toLower = ['u', 't', 'c'] then some (0, rest.drop 3)
    else readOffset? between rest
  if (trimStart rest).isEmpty then
    let _ ← moment.checked?
    (moment.atOffset offset).checked?
  else none

/-! ## Writing -/

/-- A number with zeros in front, up to a number of digits. -/
def padded (width n : Nat) : List Char :=
  let digits := (Nat.toDigits 10 n)
  List.replicate (width - digits.length) '0' ++ digits

/-- A year of four digits; beyond them a sign comes first. -/
def writeYear (year : Int) : List Char :=
  if 0 ≤ year && year ≤ 9999 then padded 4 year.toNat
  else (if year < 0 then '-' else '+') :: padded 4 year.natAbs

/-- The date and the time of day down to the second. -/
def writeSecond (moment : Instant) : List Char :=
  let date := moment.date
  let second := moment.secondOfDay
  let leap := if nanosPerSecond ≤ moment.nanos then 1 else 0
  writeYear date.year ++ ['-'] ++ padded 2 date.month ++ ['-'] ++ padded 2 date.day ++ ['T'] ++
    padded 2 (second / 3600) ++ [':'] ++ padded 2 (second / 60 % 60) ++ [':'] ++
    padded 2 (second % 60 + leap)

/-- The wire form of a date: three digits of the second, cut and not rounded. -/
def writeMillis (moment : Instant) : List Char :=
  writeSecond moment ++ ['.'] ++ padded 3 (moment.nanos % nanosPerSecond / 1000000) ++ ['Z']

/-- A date with no, three, six or nine digits of the second, the fewest that
hold it. -/
def writeShortest (moment : Instant) : List Char :=
  let nanos := moment.nanos % nanosPerSecond
  let fraction :=
    if nanos = 0 then []
    else if nanos % 1000000 = 0 then '.' :: padded 3 (nanos / 1000000)
    else if nanos % 1000 = 0 then '.' :: padded 6 (nanos / 1000)
    else '.' :: padded 9 nanos
  writeSecond moment ++ fraction ++ ['Z']

/-- The wire form of a date as a string. -/
def Instant.format (moment : Instant) : String :=
  String.ofList (writeMillis moment)

end IssueSearch.Time
