import IssueSearch.Operator
import IssueSearch.Text.Lowercase

/-!
# Fields of the query language

A schema is the table of the fields that a query may filter by.  A name is
resolved without regard to ASCII case, first among the canonical names, then
among the aliases; the first entry that claims a name keeps it.

* `Field`, `Schema`: an entry and the table;
* `Schema.names`, `Schema.lookup`: the entry that a name resolves to;
* `Schema.resolve?`: a filter name, with the keyword of the sort order;
* `Schema.standard`: the fields of an issue.
-/

namespace IssueSearch

/-- What the values of a field are. -/
inductive FieldType where
  | enum
  | number
  | date
  | text
  deriving Repr, DecidableEq, Inhabited

namespace FieldType

/-- All types, in the order in which they are declared. -/
def all : List FieldType :=
  [enum, number, date, text]

/-- The name of a type in records. -/
def name : FieldType → String
  | enum => "enum"
  | number => "number"
  | date => "date"
  | text => "text"

end FieldType

/-- A field of an issue that a query may filter by. -/
structure Field where
  /-- The canonical name. -/
  name : String
  type : FieldType
  /-- The allowed values of an `enum` field. -/
  values : List String := []
  /-- The operators that a filter on the field may use. -/
  operators : List Operator := []
  description : String := ""
  /-- Further names. -/
  aliases : List String := []
  deriving Repr, DecidableEq, Inhabited

namespace Field

/-- Whether a filter on the field may use the operator. -/
def allows (field : Field) (op : Operator) : Bool :=
  field.operators.contains op

/-- Whether the value is one of the allowed ones, up to ASCII case. -/
def accepts (field : Field) (value : List Char) : Bool :=
  field.values.any fun allowed => Text.eqIgnoreCase allowed.toList value

/-- Whether the name is the canonical one, up to ASCII case. -/
def isNamed (field : Field) (name : List Char) : Bool :=
  Text.eqIgnoreCase field.name.toList name

/-- Whether the name is one of the aliases, up to ASCII case. -/
def hasAlias (field : Field) (name : List Char) : Bool :=
  field.aliases.any fun other => Text.eqIgnoreCase other.toList name

end Field

/-- The keyword that starts a sort order. -/
def sortKeyword : String :=
  "sort"

/-- The fields that results can be ordered by. -/
def sortableFields : List String :=
  ["count", "users", "last_seen", "first_seen"]

/-- Whether a name is the sort keyword, up to ASCII case. -/
def isSortKeyword (name : List Char) : Bool :=
  Text.eqIgnoreCase sortKeyword.toList name

/-- Whether results can be ordered by the field. -/
def isSortable (field : String) : Bool :=
  sortableFields.contains field

/-- A table of fields. -/
structure Schema where
  fields : List Field
  deriving Repr, DecidableEq, Inhabited

namespace Schema

/-- Every name in lower case with the field that it may stand for: the canonical
names come before the aliases. -/
def names (schema : Schema) : List (List Char × Field) :=
  schema.fields.map (fun field => (Text.lowerAscii field.name.toList, field)) ++
    schema.fields.flatMap fun field =>
      field.aliases.map fun other => (Text.lowerAscii other.toList, field)

/-- The field that a name resolves to in any ASCII case: the first that may go by
it. -/
def lookup (schema : Schema) (name : List Char) : Option Field :=
  schema.names.lookup (Text.lowerAscii name)

/-- What a filter name denotes: the order of the results or a field. -/
inductive Subject where
  | sort
  | field (name : String)
  deriving Repr, DecidableEq

/-- What the name of a filter denotes, if anything. -/
def resolve? (schema : Schema) (name : List Char) : Option Subject :=
  if isSortKeyword name then some .sort
  else (schema.lookup name).map fun field => .field field.name

/-- The fields of an issue. -/
def standard : Schema where
  fields := [
    { name := "is", type := .enum, values := ["unresolved", "resolved", "ignored"],
      operators := [.eq, .ne], description := "Issue status", aliases := ["status"] },
    { name := "level", type := .enum, values := ["fatal", "error", "warning", "info"],
      operators := [.eq, .ne], description := "Error severity level", aliases := ["severity"] },
    { name := "count", type := .number, operators := [.eq, .gt, .lt, .gte, .lte],
      description := "Number of events", aliases := ["events"] },
    { name := "users", type := .number, operators := [.eq, .gt, .lt],
      description := "Number of affected users", aliases := ["user_count"] },
    { name := "first_seen", type := .date, operators := [.eq, .gt, .lt],
      description := "When the issue was first seen", aliases := ["created", "opened"] },
    { name := "last_seen", type := .date, operators := [.eq, .gt, .lt],
      description := "When the issue was last seen", aliases := ["updated", "recent"] },
    { name := "title", type := .text, operators := [.eq],
      description := "Search in error title/message", aliases := ["message", "error"] },
    { name := "fingerprint", type := .text, operators := [.eq],
      description := "Issue fingerprint", aliases := ["hash", "id"] }]

/-! ## Laws -/

/-- Among the canonical names, the first field with the name is found. -/
theorem lookup_canonical (fields : List Field) (name : List Char) :
    (fields.map fun field => (Text.lowerAscii field.name.toList, field)).lookup
        (Text.lowerAscii name) =
      fields.find? (·.isNamed name) := by
  induction fields with
  | nil => rfl
  | cons field rest ih =>
    simp only [List.map_cons, List.lookup_cons, List.find?_cons, Field.isNamed,
      Text.eqIgnoreCase, ih]
    rw [BEq.comm]

/-- Among the aliases of a field, the field is found under each of them. -/
theorem lookup_alias (aliases : List String) (field : Field) (name : List Char) :
    (aliases.map fun other => (Text.lowerAscii other.toList, field)).lookup
        (Text.lowerAscii name) =
      if aliases.any (fun other => Text.eqIgnoreCase other.toList name) then some field
      else none := by
  induction aliases with
  | nil => rfl
  | cons other rest ih =>
    simp only [List.map_cons, List.lookup_cons, List.any_cons, Text.eqIgnoreCase] at ih ⊢
    rw [ih, BEq.comm]
    by_cases h : (Text.lowerAscii other.toList == Text.lowerAscii name) = true <;> simp [h]

/-- Among all aliases, the first field with the alias is found. -/
theorem lookup_aliases (fields : List Field) (name : List Char) :
    (fields.flatMap fun field =>
        field.aliases.map fun other => (Text.lowerAscii other.toList, field)).lookup
        (Text.lowerAscii name) =
      fields.find? (·.hasAlias name) := by
  induction fields with
  | nil => rfl
  | cons field rest ih =>
    rw [List.flatMap_cons, List.lookup_append, lookup_alias, ih, List.find?_cons, Field.hasAlias]
    by_cases h : (field.aliases.any fun other => Text.eqIgnoreCase other.toList name) = true
    · simp only [h, if_true, Option.some_or]
    · simp only [h, Bool.false_eq_true, if_false, Option.none_or]

/-- A canonical name goes before every alias, and among equals the first field of
the table is found. -/
theorem lookup_eq_or (schema : Schema) (name : List Char) :
    schema.lookup name =
      (schema.fields.find? (·.isNamed name)).or (schema.fields.find? (·.hasAlias name)) := by
  rw [lookup, names, List.lookup_append, lookup_canonical, lookup_aliases]

end Schema

end IssueSearch
