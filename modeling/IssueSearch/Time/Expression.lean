import IssueSearch.Text.Lowercase
import IssueSearch.Time.Written

/-!
# Date expressions

The value of a date filter: a keyword, an offset before now, or a written date.
What falls outside the years 1 to 9999 is no value.

* `keyword?`: `today`, `yesterday`, `this_week` and `this_month`;
* `offset?`, `ago?`: a number of hours, days, weeks or months before now;
* `resolve?`: the instant of an expression.
-/

namespace IssueSearch.Time

/-- The keywords, each a start of a day. -/
inductive Keyword where
  | today
  | yesterday
  | thisWeek
  | thisMonth
  deriving Repr, DecidableEq

/-- The keyword with a spelling, in any ASCII case. -/
def keyword? (text : List Char) : Option Keyword :=
  let lowered := Text.lowerAscii text
  if lowered = "today".toList then some .today
  else if lowered = "yesterday".toList then some .yesterday
  else if lowered = "this_week".toList then some .thisWeek
  else if lowered = "this_month".toList then some .thisMonth
  else none

/-- The instant that a keyword names: a week starts on Monday. -/
def Keyword.resolve? (now : Instant) : Keyword → Option Instant
  | today => some now.startOfDay
  | yesterday => now.startOfDay.earlier? 86400
  | thisWeek => now.startOfDay.earlier? (now.daysSinceMonday * 86400)
  | thisMonth => some now.startOfMonth

/-- The units of an offset. -/
inductive OffsetUnit where
  | hour
  | day
  | week
  | month
  deriving Repr, DecidableEq

/-- The letter of a unit. -/
def OffsetUnit.ofChar? : Char → Option OffsetUnit
  | 'h' => some hour
  | 'd' => some day
  | 'w' => some week
  | 'm' => some month
  | _ => none

/-- An offset: digits and the letter of a unit. -/
def offset? (text : List Char) : Option (Nat × OffsetUnit) :=
  match text.reverse with
  | letter :: digits => do
      let amount ← Text.readDigits? digits.reverse
      let unit ← OffsetUnit.ofChar? letter
      some (amount, unit)
  | [] => none

/-- The length of a unit in seconds.  That of a month varies. -/
def OffsetUnit.seconds? : OffsetUnit → Option Nat
  | hour => some 3600
  | day => some 86400
  | week => some 604800
  | month => none

/-- The greatest amount, which is that of 64 bits. -/
def maxAmount : Nat :=
  9223372036854775807

/-- The longest time that calculations go back, in seconds: its milliseconds fit into 64
bits. -/
def maxSpan : Nat :=
  9223372036854775

/-- The instant some units before now.  An amount beyond 64 bits is refused, and so are a time
beyond the longest one and a number of months beyond 32 bits. -/
def ago? (now : Instant) (amount : Nat) (unit : OffsetUnit) : Option Instant :=
  if amount ≤ maxAmount then
    match unit.seconds? with
    | some seconds =>
        if amount * seconds ≤ maxSpan then now.earlier? (amount * seconds) else none
    | none => if amount < UInt32.size then now.monthsEarlier? amount else none
  else none

/-- The instant of an expression without blanks around it, in any year. -/
def resolveTrimmed? (now : Instant) (text : List Char) : Option Instant :=
  match keyword? text with
  | some keyword => keyword.resolve? now
  | none =>
      match offset? text with
      | some (amount, unit) => ago? now amount unit
      | none => readAbsolute? text

/-- The instant of an expression. -/
def resolve? (now : Instant) (text : List Char) : Option Instant :=
  (resolveTrimmed? now (Text.trim text)).filter (·.isRepresentable)

end IssueSearch.Time
