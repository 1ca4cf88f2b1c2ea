import IssueSearch.Record.Basic
import IssueSearch.Schema

/-!
# Records of a schema

The record forms of fields and operators.  A field has to have a name and a
type; what else is absent or null is empty.
-/

namespace IssueSearch

/-- The operator with a name. -/
def Operator.ofJson? : Json → Option Operator :=
  Json.named? Operator.all Operator.name

namespace Field

/-- The slots of a field, in order. -/
def slots : List Slot :=
  [.always "name", .always "type", .trailing "values", .trailing "operators",
    .trailing "description", .trailing "aliases"]

/-- The record of a field. -/
def toJson (field : Field) : Json :=
  .object [
    ("name", .string field.name),
    ("type", .string field.type.name),
    ("values", .strings field.values),
    ("operators", .array (field.operators.map fun op => .string op.name)),
    ("description", .string field.description),
    ("aliases", .strings field.aliases)]

/-- Reads the record of a field. -/
def ofJson? (json : Json) : Option Field := do
  let record ← Record.ofJson? slots json
  let name ← record.required? "name" Json.string?
  let type ← record.required? "type" (Json.named? FieldType.all FieldType.name)
  let values ← record.optional? "values" Json.strings?
  let operators ← record.optional? "operators" (Json.list? Operator.ofJson?)
  let description ← record.optional? "description" Json.string?
  let aliases ← record.optional? "aliases" Json.strings?
  some {
    name, type, values := values.getD [], operators := operators.getD [],
    description := description.getD "", aliases := aliases.getD [] }

end Field

end IssueSearch
