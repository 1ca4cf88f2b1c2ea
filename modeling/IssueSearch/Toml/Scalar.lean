import IssueSearch.Json
import IssueSearch.Text.Integer
import IssueSearch.Time.Written

/-!
# Numbers, booleans and dates of a settings file

A value without quotes is recognised as a whole.

* `integer?`: a decimal, hexadecimal, octal or binary integer of 64 bits;
* `decimal?`, `overflows`, `isFloat`: a number with a fraction or an exponent, an
  infinity or no number;
* `isMoment`: a date, a time of day, or both;
* `scalar?`: any of them, or a boolean.

A date is no string: it is kept as an object with a member of its own, so that
no slot of a record takes it for a text.
-/

namespace IssueSearch.Toml

open Time (readChar? readNumber?)

/-- The digits of a number whose groups are parted by single underscores. -/
def ungrouped? (isDigit : Char → Bool) (text : List Char) : Option (List Char) :=
  let groups := text.splitOn '_'
  if groups.all fun group => !group.isEmpty && group.all isDigit then some groups.flatten else none

/-- A sign, if there is one, and what follows. -/
def splitSign : List Char → Bool × List Char
  | '+' :: rest => (false, rest)
  | '-' :: rest => (true, rest)
  | text => (false, text)

/-- Whether digits have no zero in front that is not needed. -/
def isTight (digits : List Char) : Bool :=
  digits.length ≤ 1 || digits.head? != some '0'

/-- The number that digits of a base denote. -/
def ofDigits (base : Nat) (digits : List Char) : Nat :=
  digits.foldl (fun n digit =>
    let value :=
      if digit.isDigit then digit.toNat - '0'.toNat else digit.toLower.toNat - 'a'.toNat + 10
    n * base + value) 0

/-- A digit of base 16. -/
def isHexDigit (c : Char) : Bool :=
  c.isDigit || ('a' ≤ c.toLower && c.toLower ≤ 'f')

/-- A digit of base 8. -/
def isOctalDigit (c : Char) : Bool :=
  '0' ≤ c && c ≤ '7'

/-- A digit of base 2. -/
def isBinaryDigit (c : Char) : Bool :=
  c == '0' || c == '1'

/-- An integer, in any range. -/
def unbounded? (text : List Char) : Option Int :=
  match text with
  | '0' :: 'x' :: digits => (ungrouped? isHexDigit digits).map fun ds => (ofDigits 16 ds : Int)
  | '0' :: 'o' :: digits => (ungrouped? isOctalDigit digits).map fun ds => (ofDigits 8 ds : Int)
  | '0' :: 'b' :: digits => (ungrouped? isBinaryDigit digits).map fun ds => (ofDigits 2 ds : Int)
  | text =>
      let (negative, digits) := splitSign text
      match ungrouped? Char.isDigit digits with
      | some digits =>
          if isTight digits then
            some (if negative then -(ofDigits 10 digits : Int) else ofDigits 10 digits)
          else none
      | none => none

/-- An integer of 64 bits. -/
def integer? (text : List Char) : Option Int :=
  (unbounded? text).filter fun n => (Text.fitInt64? n).isSome

/-- The exponent of a number, after its letter. -/
def exponent? (text : List Char) : Option Int :=
  let (negative, digits) := splitSign text
  (ungrouped? Char.isDigit digits).map fun digits =>
    if negative then -(ofDigits 10 digits : Int) else ofDigits 10 digits

/-- The integer `m` and the exponent `e` of a number `m * 10 ^ e` without a sign
that is written with a fraction or an exponent. -/
def decimal? (text : List Char) : Option (Nat × Int) := do
  let isE := fun c => c == 'e' || c == 'E'
  let mantissa := text.takeWhile (!isE ·)
  let power := text.dropWhile (!isE ·)
  let fraction := mantissa.dropWhile (· != '.')
  let wholeDigits ← (ungrouped? Char.isDigit (mantissa.takeWhile (· != '.'))).filter isTight
  let fractionDigits ←
    if fraction.isEmpty then some [] else ungrouped? Char.isDigit (fraction.drop 1)
  let exponent ← if power.isEmpty then some 0 else exponent? (power.drop 1)
  if fraction.isEmpty && power.isEmpty then none
  else some (ofDigits 10 (wholeDigits ++ fractionDigits), exponent - fractionDigits.length)

/-- The least number that is rounded to infinity as a binary number of 64 bits:
the greatest such number and half of its last place. -/
def floatBound : Nat :=
  Nat.pow 2 1024 - Nat.pow 2 970

/-- Whether `mantissa * 10 ^ exponent` is rounded to infinity.  The bound has 309
digits before the point. -/
def overflows (mantissa : Nat) (exponent : Int) : Bool :=
  let size : Int := (Nat.toDigits 10 mantissa).length + exponent
  if mantissa = 0 || size < 309 then false
  else if 309 < size then true
  else if 0 ≤ exponent then floatBound ≤ mantissa * Nat.pow 10 exponent.toNat
  else floatBound * Nat.pow 10 (-exponent).toNat ≤ mantissa

/-- Whether a text is a number with a fraction or an exponent, an infinity or no
number.  A number that is rounded to the positive infinity is refused. -/
def isFloat (text : List Char) : Bool :=
  let (negative, body) := splitSign text
  if body = ['i', 'n', 'f'] || body = ['n', 'a', 'n'] then true
  else match decimal? body with
    | some (mantissa, exponent) => negative || !overflows mantissa exponent
    | none => false

/-- A time of day, with what follows. -/
def readClock? (text : List Char) : Option (List Char) := do
  let (hour, rest) ← readNumber? 2 2 text
  let rest ← readChar? ':' rest
  let (minute, rest) ← readNumber? 2 2 rest
  let rest ← readChar? ':' rest
  let (second, rest) ← readNumber? 2 2 rest
  let (_, rest) ← Time.readFraction? rest
  if hour ≤ 23 && minute ≤ 59 && second ≤ 60 then some rest else none

/-- A date, with what follows. -/
def readDay? (text : List Char) : Option (List Char) := do
  let (year, rest) ← readNumber? 4 4 text
  let rest ← readChar? '-' rest
  let (month, rest) ← readNumber? 2 2 rest
  let rest ← readChar? '-' rest
  let (day, rest) ← readNumber? 2 2 rest
  if Time.Date.isValid ⟨year, month, day⟩ then some rest else none

/-- A difference to UTC, or nothing, up to the end of the text. -/
def endsWithOffset (text : List Char) : Bool :=
  text.isEmpty ||
    (text.head? != some '−' &&
      ((Time.readOffset? (readChar? ':') text).map fun (_, rest) => rest.isEmpty).getD false)

/-- Whether a text is a date, a time of day, or both. -/
def isMoment (text : List Char) : Bool :=
  match readDay? text with
  | some [] => true
  | some (c :: rest) =>
      (c == 'T' || c == 't' || c == ' ') && ((readClock? rest).map endsWithOffset).getD false
  | none => ((readClock? text).map List.isEmpty).getD false

/-- A value without quotes. -/
def scalar? (text : List Char) : Option Json :=
  if text = "true".toList then some (.bool true)
  else if text = "false".toList then some (.bool false)
  else match integer? text with
    | some n => some (.int n)
    | none =>
        if isFloat text then some (.real (String.ofList text))
        else if isMoment text then some (.object [("datetime", .string (String.ofList text))])
        else none

/-- A character of a value without quotes. -/
def isScalarPart (c : Char) : Bool :=
  c.isAlphanum || c == '_' || c == '+' || c == '-' || c == '.' || c == ':'

/-- The characters of a value without quotes at the start of a text, with what
follows.  A blank may part a date from a time of day. -/
def splitScalar (text : List Char) : List Char × List Char :=
  let run := text.takeWhile isScalarPart
  match text.dropWhile isScalarPart with
  | ' ' :: c :: rest =>
      if readDay? run = some [] && c.isDigit then
        (run ++ ' ' :: (c :: rest).takeWhile isScalarPart, (c :: rest).dropWhile isScalarPart)
      else (run, ' ' :: c :: rest)
  | rest => (run, rest)

/-- A value without quotes, with what follows. -/
def readScalar? (text : List Char) : Option (Json × List Char) :=
  let (run, rest) := splitScalar text
  (scalar? run).map fun json => (json, rest)

end IssueSearch.Toml
