import IssueSearch.Query
import IssueSearch.Record.Schema

/-!
# Records of a query

The record forms of a query and its parts.  Absent slots are left out, and so is
the mark of a negation that is not set.

* `Token.toJson`, `Token.ofJson?`: tokens;
* `Filters.toJson`, `Filters.ofJson?`: filters;
* `SortOrder.toJson`, `SortOrder.ofJson?`: the order of the results;
* `Cause.toJson`, `Cause.ofJson?`: causes, told apart by the slot `kind`;
* `Diagnostic.toJson`, `Diagnostic.ofJson?`: diagnostics;
* `Query.toJson`, `Query.ofJson?`: queries.
-/

namespace IssueSearch

/-! ## Tokens -/

namespace Token

/-- The slots of a token, in order. -/
def slots : List Slot :=
  [.always "type", .always "field", .always "operator", .always "value", .trailing "negated",
    .always "raw", .always "startIndex", .always "endIndex"]

/-- The record of a token. -/
def toJson (token : Token) : Json :=
  .ofMembers [
    ("type", some (.string token.kind.name)),
    ("field", token.field.map .string),
    ("operator", token.operator.map fun op => .string op.name),
    ("value", some (.string token.value)),
    ("negated", if token.negated then some (.bool true) else none),
    ("raw", some (.string token.raw)),
    ("startIndex", some (.int token.startIndex)),
    ("endIndex", some (.int token.endIndex))]

/-- Reads the record of a token. -/
def ofJson? (json : Json) : Option Token := do
  let record ← Record.ofJson? slots json
  let kind ← record.required? "type" (Json.named? TokenKind.all TokenKind.name)
  let field ← record.optional? "field" Json.string?
  let operator ← record.optional? "operator" Operator.ofJson?
  let value ← record.required? "value" Json.string?
  let negated ← record.defaulted? "negated" false Json.bool?
  let raw ← record.required? "raw" Json.string?
  let startIndex ← record.required? "startIndex" Json.nat?
  let endIndex ← record.required? "endIndex" Json.nat?
  some { kind, field, operator, value, negated, raw, startIndex, endIndex }

end Token

/-! ## Filters -/

namespace Filters

/-- The slots of the filters, in order. -/
def slots : List Slot :=
  [.trailing "status", .trailing "level", .trailing "count_gt", .trailing "count_lt",
    .trailing "count_gte", .trailing "count_lte", .trailing "users_gt", .trailing "users_lt",
    .trailing "first_seen_after", .trailing "first_seen_before", .trailing "last_seen_after",
    .trailing "last_seen_before", .trailing "text"]

/-- The record of the filters. -/
def toJson (filters : Filters) : Json :=
  .ofMembers [
    ("status", filters.status.map .strings),
    ("level", filters.level.map .strings),
    ("count_gt", filters.countGt.map .ofInt64),
    ("count_lt", filters.countLt.map .ofInt64),
    ("count_gte", filters.countGte.map .ofInt64),
    ("count_lte", filters.countLte.map .ofInt64),
    ("users_gt", filters.usersGt.map .ofInt64),
    ("users_lt", filters.usersLt.map .ofInt64),
    ("first_seen_after", filters.firstSeenAfter.map .string),
    ("first_seen_before", filters.firstSeenBefore.map .string),
    ("last_seen_after", filters.lastSeenAfter.map .string),
    ("last_seen_before", filters.lastSeenBefore.map .string),
    ("text", filters.text.map .string)]

/-- Reads the record of the filters. -/
def ofJson? (json : Json) : Option Filters := do
  let record ← Record.ofJson? slots json
  let status ← record.optional? "status" Json.strings?
  let level ← record.optional? "level" Json.strings?
  let countGt ← record.optional? "count_gt" Json.int64?
  let countLt ← record.optional? "count_lt" Json.int64?
  let countGte ← record.optional? "count_gte" Json.int64?
  let countLte ← record.optional? "count_lte" Json.int64?
  let usersGt ← record.optional? "users_gt" Json.int64?
  let usersLt ← record.optional? "users_lt" Json.int64?
  let firstSeenAfter ← record.optional? "first_seen_after" Json.string?
  let firstSeenBefore ← record.optional? "first_seen_before" Json.string?
  let lastSeenAfter ← record.optional? "last_seen_after" Json.string?
  let lastSeenBefore ← record.optional? "last_seen_before" Json.string?
  let text ← record.optional? "text" Json.string?
  some {
    status, level, countGt, countLt, countGte, countLte, usersGt, usersLt, firstSeenAfter,
    firstSeenBefore, lastSeenAfter, lastSeenBefore, text }

end Filters

/-! ## The order of the results -/

namespace SortOrder

/-- The slots of an order, in order. -/
def slots : List Slot :=
  [.always "field", .always "direction"]

/-- The record of an order. -/
def toJson (order : SortOrder) : Json :=
  .object [("field", .string order.field), ("direction", .string order.direction.name)]

/-- Reads the record of an order. -/
def ofJson? (json : Json) : Option SortOrder := do
  let record ← Record.ofJson? slots json
  let field ← record.required? "field" Json.string?
  let direction ← record.required? "direction" (Json.named? Direction.all Direction.name)
  some { field, direction }

end SortOrder

/-! ## Causes -/

namespace Cause

/-- The record of a cause. -/
def toJson (cause : Cause) : Json :=
  .object <| ("kind", .string cause.name) ::
    match cause with
    | unknownField field => [("field", .string field)]
    | invalidEnumValue field value allowed =>
        [("field", .string field), ("value", .string value), ("allowed", .strings allowed)]
    | invalidNumber field value => [("field", .string field), ("value", .string value)]
    | negativeNumberRejected field value => [("field", .string field), ("value", .string value)]
    | invalidDate field value => [("field", .string field), ("value", .string value)]
    | invalidSortField field allowed => [("field", .string field), ("allowed", .strings allowed)]
    | unsupportedOperator field operator =>
        [("field", .string field), ("operator", .string operator)]

/-- The name of the cause and the value that holds its other slots: the object
itself, or what follows the name in an array. -/
def tagged? : Json → Option (String × Json)
  | .object members => do
      let name ← (Json.lookup "kind" members).bind Json.string?
      some (name, .object members)
  | .array (.string name :: items) => some (name, .array items)
  | _ => none

/-- A cause with the field and the value that it is about. -/
def ofFieldAndValue? (cause : String → String → Cause) (json : Json) : Option Cause := do
  let record ← Record.ofJson? [.always "field", .always "value"] json
  let field ← record.required? "field" Json.string?
  let value ← record.required? "value" Json.string?
  some (cause field value)

/-- Reads the record of a cause. -/
def ofJson? (json : Json) : Option Cause := do
  let (name, json) ← tagged? json
  match name with
  | "unknown_field" =>
      let record ← Record.ofJson? [.always "field"] json
      let field ← record.required? "field" Json.string?
      some (unknownField field)
  | "invalid_enum_value" =>
      let record ← Record.ofJson? [.always "field", .always "value", .always "allowed"] json
      let field ← record.required? "field" Json.string?
      let value ← record.required? "value" Json.string?
      let allowed ← record.required? "allowed" Json.strings?
      some (invalidEnumValue field value allowed)
  | "invalid_number" => ofFieldAndValue? invalidNumber json
  | "negative_number_rejected" => ofFieldAndValue? negativeNumberRejected json
  | "invalid_date" => ofFieldAndValue? invalidDate json
  | "invalid_sort_field" =>
      let record ← Record.ofJson? [.always "field", .always "allowed"] json
      let field ← record.required? "field" Json.string?
      let allowed ← record.required? "allowed" Json.strings?
      some (invalidSortField field allowed)
  | "unsupported_operator" =>
      let record ← Record.ofJson? [.always "field", .always "operator"] json
      let field ← record.required? "field" Json.string?
      let operator ← record.required? "operator" Json.string?
      some (unsupportedOperator field operator)
  | _ => none

end Cause

/-! ## Diagnostics -/

namespace Diagnostic

/-- The slots of a diagnostic, in order. -/
def slots : List Slot :=
  [.always "kind", .always "message", .always "startIndex", .always "endIndex"]

/-- The record of a diagnostic. -/
def toJson (diagnostic : Diagnostic) : Json :=
  .object [
    ("kind", diagnostic.cause.toJson),
    ("message", .string diagnostic.message),
    ("startIndex", .int diagnostic.startIndex),
    ("endIndex", .int diagnostic.endIndex)]

/-- Reads the record of a diagnostic. -/
def ofJson? (json : Json) : Option Diagnostic := do
  let record ← Record.ofJson? slots json
  let cause ← record.required? "kind" Cause.ofJson?
  let message ← record.required? "message" Json.string?
  let startIndex ← record.required? "startIndex" Json.nat?
  let endIndex ← record.required? "endIndex" Json.nat?
  some { cause, message, startIndex, endIndex }

end Diagnostic

/-! ## Queries -/

namespace Query

/-- The slots of a query, in order. -/
def slots : List Slot :=
  [.always "tokens", .always "freeText", .always "filters", .trailing "sort", .always "errors"]

/-- The record of a query. -/
def toJson (query : Query) : Json :=
  .ofMembers [
    ("tokens", some (.array (query.tokens.map Token.toJson))),
    ("freeText", some (.string query.freeText)),
    ("filters", some query.filters.toJson),
    ("sort", query.sort.map SortOrder.toJson),
    ("errors", some (.array (query.errors.map Diagnostic.toJson)))]

/-- Reads the record of a query. -/
def ofJson? (json : Json) : Option Query := do
  let record ← Record.ofJson? slots json
  let tokens ← record.required? "tokens" (Json.list? Token.ofJson?)
  let freeText ← record.required? "freeText" Json.string?
  let filters ← record.required? "filters" Filters.ofJson?
  let sort ← record.optional? "sort" SortOrder.ofJson?
  let errors ← record.required? "errors" (Json.list? Diagnostic.ofJson?)
  some { tokens, freeText, filters, sort, errors }

end Query

end IssueSearch
