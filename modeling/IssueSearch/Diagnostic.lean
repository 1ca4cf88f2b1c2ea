/-!
# Diagnostics

What is wrong with a token of a query.  A diagnostic carries its cause, the
message that states the cause, and the place of the token.

* `Cause`, `Cause.message`: the reasons to reject a token and their wording;
* `Diagnostic`, `Diagnostic.display`: a cause with its place;
* `Diagnostic.summary`: all the diagnostics of a query in one line.
-/

namespace IssueSearch

/-- Why a token is rejected. -/
inductive Cause where
  /-- The name before the colon is neither a field nor an alias. -/
  | unknownField (field : String)
  | invalidEnumValue (field value : String) (allowed : List String)
  | invalidNumber (field value : String)
  | negativeNumberRejected (field value : String)
  | invalidDate (field value : String)
  | invalidSortField (field : String) (allowed : List String)
  /-- The field cannot be compared in this way. -/
  | unsupportedOperator (field operator : String)
  deriving Repr, DecidableEq, Inhabited

namespace Cause

/-- A text between quotes. -/
def quoted (text : String) : String :=
  "\"" ++ text ++ "\""

/-- The name of a cause in records. -/
def name : Cause → String
  | unknownField .. => "unknown_field"
  | invalidEnumValue .. => "invalid_enum_value"
  | invalidNumber .. => "invalid_number"
  | negativeNumberRejected .. => "negative_number_rejected"
  | invalidDate .. => "invalid_date"
  | invalidSortField .. => "invalid_sort_field"
  | unsupportedOperator .. => "unsupported_operator"

/-- The sentence that states a cause. -/
def message : Cause → String
  | unknownField field => "unknown field " ++ quoted field
  | invalidEnumValue field value allowed =>
      "invalid value " ++ quoted value ++ " for " ++ field ++ "; expected one of: " ++
        String.intercalate ", " allowed
  | invalidNumber field value => "invalid number " ++ quoted value ++ " for " ++ field
  | negativeNumberRejected field value =>
      field ++ " must not be negative (got " ++ value ++ ")"
  | invalidDate field value => "invalid date " ++ quoted value ++ " for " ++ field
  | invalidSortField field allowed =>
      "cannot sort by " ++ quoted field ++ "; expected one of: " ++
        String.intercalate ", " allowed
  | unsupportedOperator field operator =>
      "operator " ++ operator ++ " is not supported for " ++ field

end Cause

/-- A cause with its message and the byte offsets of the token. -/
structure Diagnostic where
  cause : Cause
  message : String
  startIndex : Nat
  endIndex : Nat
  deriving Repr, DecidableEq, Inhabited

namespace Diagnostic

/-- The diagnostic of a cause at a place. -/
def ofCause (cause : Cause) (startIndex endIndex : Nat) : Diagnostic where
  cause
  message := cause.message
  startIndex
  endIndex

/-- The message with its place. -/
def display (diagnostic : Diagnostic) : String :=
  diagnostic.message ++ " (at " ++ toString diagnostic.startIndex ++ ".." ++
    toString diagnostic.endIndex ++ ")"

/-- All messages in one line. -/
def summary (diagnostics : List Diagnostic) : String :=
  "query has " ++ toString diagnostics.length ++ " error(s): " ++
    String.intercalate "; " (diagnostics.map (·.message))

end Diagnostic

end IssueSearch
