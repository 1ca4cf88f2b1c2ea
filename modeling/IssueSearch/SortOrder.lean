/-!
# The order of the results

A query may name the field by which its results are ordered, and the direction.
-/

namespace IssueSearch

/-- Whether the greatest or the least value comes first. -/
inductive Direction where
  | asc
  | desc
  deriving Repr, DecidableEq, Inhabited

namespace Direction

/-- Both directions. -/
def all : List Direction :=
  [asc, desc]

/-- The name of a direction in queries and records. -/
def name : Direction → String
  | asc => "asc"
  | desc => "desc"

end Direction

/-- The order of the results. -/
structure SortOrder where
  field : String
  direction : Direction
  deriving Repr, DecidableEq, Inhabited

end IssueSearch
