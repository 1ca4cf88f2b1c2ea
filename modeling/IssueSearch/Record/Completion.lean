import IssueSearch.Completion
import IssueSearch.Record.Basic
import IssueSearch.Time.Written

/-!
# Records of a completion

The record forms of saved searches, of the counts of values, and of suggestions.

* `SavedSearch.toJson`, `SavedSearch.ofJson?`: saved searches, whose slots may
  be given in two spellings;
* `Facets.ofJson?`: the counts of values;
* `Suggestion.toJson`: suggestions, where the caller chooses how a score is
  written.
-/

namespace IssueSearch

namespace SavedSearch

/-- The slots of a saved search, in order. -/
def slots : List Slot :=
  [.always "id", .always "name", .always "query",
    { name := "project_id", spelling := some "projectId" },
    { name := "created_at", spelling := some "createdAt" },
    { name := "is_default", spelling := some "isDefault", mayEnd := true }]

/-- The record of a saved search. -/
def toJson (saved : SavedSearch) : Json :=
  .object [
    ("id", .string saved.id),
    ("name", .string saved.name),
    ("query", .string saved.query),
    ("project_id", .string saved.projectId),
    ("created_at", .string (String.ofList (Time.writeShortest saved.createdAt))),
    ("is_default", .bool saved.isDefault)]

/-- Reads the record of a saved search. -/
def ofJson? (json : Json) : Option SavedSearch := do
  let record ← Record.ofJson? slots json
  let id ← record.required? "id" Json.string?
  let name ← record.required? "name" Json.string?
  let query ← record.required? "query" Json.string?
  let projectId ← record.required? "project_id" Json.string?
  let createdAt ← record.required? "created_at" fun json =>
    json.string?.bind fun text => Time.readLenient? text.toList
  let isDefault ← record.defaulted? "is_default" false Json.bool?
  some { id, name, query, projectId, createdAt, isDefault }

end SavedSearch

namespace Facets

/-- The slots of the counts, in order. -/
def slots : List Slot :=
  [.trailing "level", .trailing "status"]

/-- The counts of the values of one field. -/
def countsOfJson? : Json → Option (List (String × UInt32))
  | .object members => members.mapM fun (value, count) => do
      let count ← count.uint32?
      some (value, count)
  | _ => none

/-- Reads the record of the counts. -/
def ofJson? (json : Json) : Option Facets := do
  let record ← Record.ofJson? slots json
  let level ← record.defaulted? "level" [] countsOfJson?
  let status ← record.defaulted? "status" [] countsOfJson?
  some { level, status }

end Facets

namespace Suggestion

/-- The record of a suggestion. -/
def toJson (writeScore : Score → Json) (suggestion : Suggestion) : Json :=
  .ofMembers [
    ("type", some (.string suggestion.kind.name)),
    ("label", some (.string suggestion.label)),
    ("value", some (.string suggestion.value)),
    ("description", suggestion.description.map .string),
    ("icon", suggestion.icon.map .string),
    ("category", suggestion.category.map .string),
    ("count", suggestion.count.map .ofUInt32),
    ("score", some (writeScore suggestion.score))]

end Suggestion

end IssueSearch
