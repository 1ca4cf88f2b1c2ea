import IssueSearch.Token.Scan
import IssueSearch.Validation

/-!
# Queries

What a query means: the filters of the search, the order of its results, the
free text, and everything that is wrong with it.  Reading a query never fails; a
rejected token leaves a diagnostic and no other trace.

* `Query`: the meaning of a query;
* `Query.ofTokens`, `Schema.parse`: reading tokens and texts;
* `Query.mentions`: the fields that a query filters by.
-/

namespace IssueSearch

open Time (Instant)

/-- The meaning of a query. -/
structure Query where
  tokens : List Token
  /-- The words, phrases and text values, with one space between them. -/
  freeText : String
  filters : Filters
  sort : Option SortOrder
  errors : List Diagnostic
  deriving DecidableEq, Inhabited

namespace Effect

/-- The text of a word. -/
def word? : Effect → Option String
  | word text => some text
  | _ => none

/-- The clause of a filter. -/
def clause? : Effect → Option Clause
  | clause c => some c
  | _ => none

/-- The order that a token asks for. -/
def sort? : Effect → Option SortOrder
  | sort order => some order
  | _ => none

/-- The cause of a rejection. -/
def cause? : Effect → Option Cause
  | reject cause => some cause
  | _ => none

end Effect

namespace Query

/-- Whether a token was rejected. -/
def hasErrors (query : Query) : Bool :=
  !query.errors.isEmpty

/-- Whether a filter on the field, negated or not, is part of the query. -/
def mentions (query : Query) (field : String) : Bool :=
  query.tokens.any fun token => token.isFilter && token.field == some field

/-- The meaning of a row of tokens. -/
def ofTokens (schema : Schema) (now : Instant) (tokens : List Token) : Query :=
  let effects := tokens.map fun token => token.effect schema now
  let freeText := String.intercalate " " (effects.filterMap Effect.word?)
  let filters := Filters.ofClauses (effects.filterMap Effect.clause?)
  { tokens
    freeText
    filters := { filters with text := if freeText.isEmpty then none else some freeText }
    sort := (effects.filterMap Effect.sort?).getLast?
    errors := tokens.filterMap fun token =>
      (token.effect schema now).cause?.map fun cause =>
        Diagnostic.ofCause cause token.startIndex token.endIndex }

end Query

/-- The meaning of a query. -/
def Schema.parse (schema : Schema) (now : Instant) (query : String) : Query :=
  Query.ofTokens schema now (schema.tokenize query)

end IssueSearch
