import IssueSearch.Operator
import IssueSearch.Time.Written

/-!
# The filters of a search

A clause is one accepted filter of a query.  The clauses of a query are folded
into one record with a slot for each bound: a later clause replaces what an
earlier one wrote into the same slot, and the lists of values grow.

* `Clause`: one accepted filter;
* `Filters`: the slots;
* `Filters.apply`: the slots after a clause;
* `Filters.ofClauses`: the slots after all clauses.
-/

namespace IssueSearch

open Time (Instant)

/-- One accepted filter. -/
inductive Clause where
  | enum (field value : String)
  | number (field : String) (operator : Operator) (value : Int64)
  | date (field : String) (operator : Operator) (moment : Instant)
  /-- A text to search for, in whatever field it was given. -/
  | text (value : String)
  deriving Repr, DecidableEq

/-- The bounds of a search; an absent slot does not restrict it. -/
structure Filters where
  status : Option (List String) := none
  level : Option (List String) := none
  countGt : Option Int64 := none
  countLt : Option Int64 := none
  countGte : Option Int64 := none
  countLte : Option Int64 := none
  usersGt : Option Int64 := none
  usersLt : Option Int64 := none
  firstSeenAfter : Option String := none
  firstSeenBefore : Option String := none
  lastSeenAfter : Option String := none
  lastSeenBefore : Option String := none
  text : Option String := none
  deriving DecidableEq, Inhabited

namespace Filters

/-- The filters that restrict nothing. -/
def empty : Filters :=
  {}

/-- Whether every slot is absent. -/
def isEmpty (filters : Filters) : Bool :=
  filters == empty

/-- The values with one more at the end, unless it is there already. -/
def withValue (values : Option (List String)) (value : String) : Option (List String) :=
  let present := values.getD []
  some (if present.contains value then present else present ++ [value])

/-- The integer before, or the integer itself if it is the least. -/
def before (value : Int64) : Int64 :=
  if value = Int64.minValue then value else value - 1

/-- The integer behind, or the integer itself if it is the greatest. -/
def behind (value : Int64) : Int64 :=
  if value = Int64.maxValue then value else value + 1

/-- The slots after a clause on the number of events. -/
def applyCount (filters : Filters) (value : Int64) : Operator → Filters
  | .gt => { filters with countGt := some value }
  | .lt => { filters with countLt := some value }
  | .gte => { filters with countGte := some value }
  | .lte => { filters with countLte := some value }
  | .eq => { filters with countGte := some value, countLte := some value }
  | .ne => filters

/-- The slots after a clause on the number of users, which has strict bounds
only: a number is the open interval around it. -/
def applyUsers (filters : Filters) (value : Int64) : Operator → Filters
  | .gt => { filters with usersGt := some value }
  | .lt => { filters with usersLt := some value }
  | .eq => { filters with usersGt := some (before value), usersLt := some (behind value) }
  | _ => filters

/-- The two bounds of a date after a clause on it: a date is the day that starts
at it. -/
def dateBounds (after before : Option String) (moment : Instant) :
    Operator → Option String × Option String
  | .gt => (some moment.format, before)
  | .lt => (after, some moment.format)
  | .eq => (some moment.format, moment.nextDay?.map Instant.format)
  | _ => (after, before)

/-- The slots after a clause.  A clause on any other field changes nothing, and
so does a text, which is gathered with the words of the query. -/
def apply (filters : Filters) : Clause → Filters
  | .enum field value =>
      if field = "is" then { filters with status := withValue filters.status value }
      else if field = "level" then { filters with level := withValue filters.level value }
      else filters
  | .number field operator value =>
      if field = "count" then filters.applyCount value operator
      else if field = "users" then filters.applyUsers value operator
      else filters
  | .date field operator moment =>
      if field = "first_seen" then
        let bounds := dateBounds filters.firstSeenAfter filters.firstSeenBefore moment operator
        { filters with firstSeenAfter := bounds.1, firstSeenBefore := bounds.2 }
      else if field = "last_seen" then
        let bounds := dateBounds filters.lastSeenAfter filters.lastSeenBefore moment operator
        { filters with lastSeenAfter := bounds.1, lastSeenBefore := bounds.2 }
      else filters
  | .text _ => filters

/-- The slots after all clauses. -/
def ofClauses (clauses : List Clause) : Filters :=
  clauses.foldl apply empty

end Filters

end IssueSearch
