import IssueSearch.Query

/-!
# Search requests

What is sent to the search: the filters and the order of a query, and which page
of the results is wanted.

* `Page`, `Page.clamped`, `Page.ofOptions`: a page within the limits;
* `Page.offset`: the number of results before the page;
* `SearchRequest`, `SearchRequest.ofQuery`: the request.
-/

namespace IssueSearch

/-- A page of the results. -/
structure Page where
  /-- The number of the page, from 1. -/
  number : UInt32
  /-- The number of results on a page. -/
  size : UInt32
  deriving Repr, DecidableEq, Inhabited

namespace Page

/-- The greatest number of results on a page. -/
def maxSize : UInt32 :=
  100

/-- The page nearest to the wanted one: the first page at least, with one result
at least and no more than the limit. -/
def clamped (number size : UInt32) : Page where
  number := max number 1
  size := min (max size 1) maxSize

/-- The wanted page, which is the first and has 50 results where nothing else is
given. -/
def ofOptions (number size : Option UInt32) : Page :=
  clamped (number.getD 1) (size.getD 50)

/-- The number of results before the page. -/
def offset (page : Page) : Nat :=
  (page.number.toNat - 1) * page.size.toNat

end Page

/-- What is sent to the search. -/
structure SearchRequest where
  filters : Option Filters
  sort : Option SortOrder
  page : UInt32
  perPage : UInt32
  deriving DecidableEq, Inhabited

namespace SearchRequest

/-- The request for a page of the results of a query.  Filters that restrict
nothing are left out. -/
def ofQuery (query : Query) (page : Page) : SearchRequest where
  filters := if query.filters.isEmpty then none else some query.filters
  sort := query.sort
  page := page.number
  perPage := page.size

/-- The page that a request asks for, within the limits. -/
def wantedPage (request : SearchRequest) : Page :=
  Page.clamped request.page request.perPage

end SearchRequest

end IssueSearch
