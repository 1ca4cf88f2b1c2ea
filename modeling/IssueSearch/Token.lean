import IssueSearch.Operator

/-!
# Tokens

A token is a piece of a query with its place in the text: a filter on a field, a
sort order, a word or phrase, or the keyword `OR`.
-/

namespace IssueSearch

/-- What a piece of a query is. -/
inductive TokenKind where
  | field
  | text
  | operator
  | sort
  deriving Repr, DecidableEq, Inhabited

namespace TokenKind

/-- All kinds, in the order in which they are declared. -/
def all : List TokenKind :=
  [field, text, operator, sort]

/-- The name of a kind in records and tables. -/
def name : TokenKind → String
  | field => "field"
  | text => "text"
  | operator => "operator"
  | sort => "sort"

end TokenKind

/-- A piece of a query with its place in the text. -/
structure Token where
  kind : TokenKind
  /-- The canonical name of the field; the sort keyword for a sort order. -/
  field : Option String
  /-- The comparison of a filter. -/
  operator : Option Operator
  /-- The value, without the quotes around it. -/
  value : String
  /-- Whether a filter starts with a dash. -/
  negated : Bool
  /-- The characters of the query that the token covers. -/
  raw : String
  /-- The byte offset of the first character. -/
  startIndex : Nat
  /-- The byte offset behind the last character. -/
  endIndex : Nat
  deriving Repr, DecidableEq, Inhabited

namespace Token

/-- Whether the token is a filter on a field or a sort order. -/
def isFilter (token : Token) : Bool :=
  token.kind == .field || token.kind == .sort

/-- Whether a filter excludes what it names, by a dash or by its operator. -/
def isNegation (token : Token) : Bool :=
  token.negated || token.operator == some .ne

end Token

end IssueSearch
