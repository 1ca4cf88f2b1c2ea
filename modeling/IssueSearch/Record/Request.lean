import IssueSearch.Record.Query
import IssueSearch.Request

/-!
# Records of a request

The record form of a search request.
-/

namespace IssueSearch.SearchRequest

/-- The slots of a request, in order. -/
def slots : List Slot :=
  [.trailing "filters", .trailing "sort", .always "page", .always "per_page"]

/-- The record of a request. -/
def toJson (request : SearchRequest) : Json :=
  .ofMembers [
    ("filters", request.filters.map Filters.toJson),
    ("sort", request.sort.map SortOrder.toJson),
    ("page", some (.ofUInt32 request.page)),
    ("per_page", some (.ofUInt32 request.perPage))]

/-- Reads the record of a request. -/
def ofJson? (json : Json) : Option SearchRequest := do
  let record ← Record.ofJson? slots json
  let filters ← record.optional? "filters" Filters.ofJson?
  let sort ← record.optional? "sort" SortOrder.ofJson?
  let page ← record.required? "page" Json.uint32?
  let perPage ← record.required? "per_page" Json.uint32?
  some { filters, sort, page, perPage }

end IssueSearch.SearchRequest
