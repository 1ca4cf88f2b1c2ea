import IssueSearch.Time.Instant

/-!
# Saved searches

A query that a user has named and kept in a project.

* `SavedSearch`: the query with its name and project;
* `SavedSearch.ofProject`: the searches of a project, its default first.
-/

namespace IssueSearch

open Time (Instant)

/-- A query that a user has named and kept. -/
structure SavedSearch where
  id : String
  name : String
  query : String
  projectId : String
  createdAt : Instant
  isDefault : Bool
  deriving Repr, DecidableEq, Inhabited

namespace SavedSearch

/-- Whether a search may stand before another one: a default one anywhere, any
other one before those that are no default either. -/
def mayPrecede (first second : SavedSearch) : Bool :=
  first.isDefault || !second.isDefault

/-- The searches of a project, the default ones first; apart from that they keep
their order. -/
def ofProject (project : String) (searches : List SavedSearch) : List SavedSearch :=
  (searches.filter (·.projectId == project)).mergeSort mayPrecede

end SavedSearch

end IssueSearch
