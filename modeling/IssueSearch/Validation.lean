import IssueSearch.Diagnostic
import IssueSearch.Filters
import IssueSearch.Schema
import IssueSearch.SortOrder
import IssueSearch.Text.Blank
import IssueSearch.Text.Integer
import IssueSearch.Time.Expression
import IssueSearch.Token
import IssueSearch.Token.Head

/-!
# Validating the tokens of a query

What a token means.  A filter is checked against the field that it names; an
empty value is no error, because it is still being typed.  A negated filter is
checked and then left out.

* `Field.enumClause`, `Field.nonNegative`, `Field.moment?`: values by type;
* `Field.clause?`: a filter on a field;
* `sortOrder?`: the order of the results;
* `Effect`, `Token.effect`: what a token contributes to its query.
-/

namespace IssueSearch

open Time (Instant)

namespace Field

/-- A value of a list of allowed ones, in lower case. -/
def enumClause (field : Field) (value : List Char) : Except Cause Clause :=
  let lowered := Text.lowercase value
  if field.accepts lowered then .ok (.enum field.name (String.ofList lowered))
  else .error (.invalidEnumValue field.name (String.ofList value) field.values)

/-- An integer from 0 to the greatest of 64 bits.  A negative one is rejected as such, also if
it does not fit into 64 bits. -/
def nonNegative (field : Field) (value : List Char) : Except Cause Int64 :=
  match Text.readInt64? value with
  | some n =>
      if n < 0 then .error (.negativeNumberRejected field.name (String.ofList value)) else .ok n
  | none =>
      if Text.isNegativeInteger value then
        .error (.negativeNumberRejected field.name (String.ofList value))
      else .error (.invalidNumber field.name (String.ofList value))

/-- The instant of a date.  The end of the day that an equality covers has to be
a date as well. -/
def moment? (operator : Operator) (value : List Char) (now : Instant) : Option Instant := do
  let moment ← Time.resolve? now value
  if operator = .eq then
    let _ ← moment.nextDay?.filter (·.isRepresentable)
    some moment
  else some moment

/-- The clause of a filter on the field, or nothing for an empty value. -/
def clause? (field : Field) (token : Token) (now : Instant) : Except Cause (Option Clause) :=
  let value := Text.trim token.value.toList
  let operator := token.operator.getD .eq
  if value.isEmpty then .ok none
  else if field.allows operator then
    match field.type with
    | .enum => (field.enumClause value).map some
    | .number => (field.nonNegative value).map fun n => some (.number field.name operator n)
    | .date =>
        match moment? operator value now with
        | some moment => .ok (some (.date field.name operator moment))
        | none => .error (.invalidDate field.name (String.ofList value))
    | .text => .ok (some (.text (String.ofList value)))
  else .error (.unsupportedOperator field.name operator.name)

end Field

/-- The parts of a text before and behind its first colon. -/
def splitAtColon (text : List Char) : List Char × List Char :=
  (text.takeWhile (· != ':'), (text.dropWhile (· != ':')).drop 1)

/-- The order that a value names, or nothing for an empty value.  The greatest
comes first unless the direction is `asc`. -/
def sortOrder? (value : List Char) : Except Cause (Option SortOrder) :=
  let value := Text.trim value
  if value.isEmpty then .ok none
  else
    let (name, direction) := splitAtColon value
    let field := String.ofList (Text.lowerAscii name)
    if isSortable field then
      let ascending := Text.eqIgnoreCase direction "asc".toList
      .ok (some ⟨field, if ascending then .asc else .desc⟩)
    else .error (.invalidSortField field sortableFields)

/-- The name before the colon of a word that looks like a filter on an unknown
field. -/
def Schema.unknownName? (schema : Schema) (raw : List Char) : Option (List Char) :=
  match FilterHead.read? raw with
  | some (head, _) => if (schema.resolve? head.name).isNone then some head.name else none
  | none => none

/-- What a token contributes to its query. -/
inductive Effect where
  | nothing
  | word (text : String)
  | clause (clause : Clause)
  | sort (order : SortOrder)
  | reject (cause : Cause)
  deriving Repr, DecidableEq

namespace Token

/-- The effect of a word or phrase.  What is written like a filter on an unknown
field is rejected; a phrase starts with a quote, so it never is. -/
def textEffect (token : Token) (schema : Schema) : Effect :=
  match schema.unknownName? token.raw.toList with
  | some name => .reject (.unknownField (String.ofList name))
  | none => if token.value.isEmpty then .nothing else .word token.value

/-- The effect of a sort order. -/
def sortEffect (token : Token) : Effect :=
  match sortOrder? token.value.toList with
  | .ok (some order) => .sort order
  | .ok none => .nothing
  | .error cause => .reject cause

/-- The effect of a filter on a field. -/
def fieldEffect (token : Token) (field : Field) (now : Instant) : Effect :=
  match field.clause? token now with
  | .ok (some clause) =>
      if token.isNegation then .nothing
      else match clause with
        | .text value => .word value
        | clause => .clause clause
  | .ok none => .nothing
  | .error cause => .reject cause

/-- The effect of a token. -/
def effect (token : Token) (schema : Schema) (now : Instant) : Effect :=
  match token.kind with
  | .text => token.textEffect schema
  | .operator => .nothing
  | .sort => token.sortEffect
  | .field =>
      match token.field.bind fun name => schema.lookup name.toList with
      | some field => token.fieldEffect field now
      | none => .nothing

end Token

end IssueSearch
