import IssueSearch.Query

/-!
# The canonical form of a query

A search is written as one query, for addresses that can be shared.  The parts
stand in a fixed order: status, level, events, users, dates, sort order, free
text.  Reading the query gives the search back.

Free text is written so that it reads as text again.  A phrase stands between
quotes; a word that holds a quote stands alone, or as the value of a title, or
loses its quotes.  Which of these fits is found out by reading the candidate, at
whatever time the clock shows: `clock n` is its `n`-th reading.

* `quotedWord`, `phraseParts`, `textParts`, `writeText`: the free text;
* `countParts`, `userParts`, `dateParts`, `sortParts`: the other parts;
* `Filters.canonical`, `Query.canonical`: the query.
-/

namespace IssueSearch

open Time (Instant)

/-- The readings of the clock, in order. -/
abbrev Clock :=
  Nat → Instant

/-! ## Free text -/

/-- A word that reads as text without quotes around it. -/
def isPlainWord (word : List Char) : Bool :=
  !word.isEmpty && !word.contains ':' && word.head? != some '-' && word.head? != some '"' &&
    word != ['O', 'R']

/-- A text between quotes. -/
def betweenQuotes (text : List Char) : List Char :=
  '"' :: text ++ ['"']

/-- A text without blanks that reads as text is written as it is, any other
between quotes. -/
def plainOrQuoted (text : List Char) : List Char :=
  if !text.any Text.isBlank && isPlainWord text then text else betweenQuotes text

/-- Whether a query has no meaning but the text. -/
def readsAsText (now : Instant) (query text : List Char) : Bool :=
  let query := Schema.standard.parse now (String.ofList query)
  query.errors.isEmpty && query.sort.isNone &&
    query.filters == { Filters.empty with text := some (String.ofList text) }

/-- A word that holds a quote: bare or as a title, the first that reads as the
word, else without its quotes. -/
def quotedWord (first second : Instant) (word : List Char) : List Char :=
  let title := "title:".toList ++ word
  if readsAsText first word word then word
  else if readsAsText second title word then title
  else betweenQuotes (word.filter isUnquote)

/-- A run of words without quotes. -/
def phraseParts (words : List (List Char)) : List (List Char) :=
  let phrase := List.intercalate [' '] words
  if phrase.isEmpty then [] else [plainOrQuoted phrase]

/-- The parts of a text that holds a quote, word by word: `index` counts the
words, and `run` holds the words without quotes since the last one. -/
def textParts (clock : Clock) (index : Nat) (run : List (List Char)) :
    List (List Char) → List (List Char)
  | [] => phraseParts run
  | word :: rest =>
      if word.contains '"' then
        phraseParts run ++ [quotedWord (clock (2 * index)) (clock (2 * index + 1)) word] ++
          textParts clock (index + 1) [] rest
      else textParts clock (index + 1) (run ++ [word]) rest

/-- A text as part of a query.  Blanks are kept as they are. -/
def writeText (clock : Clock) (text : List Char) : List Char :=
  if text.contains '"' && (text.any Text.isBlank || !isPlainWord text) then
    List.intercalate [' '] (textParts clock 0 [] (text.splitOn ' '))
  else plainOrQuoted text

/-! ## The other parts -/

/-- A filter of the canonical form. -/
def writeFilter (field symbol value : String) : String :=
  field ++ ":" ++ symbol ++ value

/-- A bound, if there is one. -/
def boundPart (field symbol : String) (bound : Option Int64) : List String :=
  bound.toList.map fun value =>
    writeFilter field symbol (String.ofList (Text.writeInteger value.toInt))

/-- The bounds on the number of events; two equal ones are an equality. -/
def countParts (filters : Filters) : List String :=
  let range :=
    if filters.countGte.isSome && filters.countGte == filters.countLte then
      boundPart "count" "" filters.countGte
    else boundPart "count" ">=" filters.countGte ++ boundPart "count" "<=" filters.countLte
  range ++ boundPart "count" ">" filters.countGt ++ boundPart "count" "<" filters.countLt

/-- The bounds on the number of users; an interval around one number is an
equality. -/
def userParts (filters : Filters) : List String :=
  match filters.usersGt, filters.usersLt with
  | some low, some high =>
      if high.toInt - low.toInt = 2 then boundPart "users" "" (some (low + 1))
      else boundPart "users" ">" (some low) ++ boundPart "users" "<" (some high)
  | low, high => boundPart "users" ">" low ++ boundPart "users" "<" high

/-- The bounds of a date. -/
def dateParts (field : String) (after before : Option String) : List String :=
  after.toList.map (writeFilter field ">") ++ before.toList.map (writeFilter field "<")

/-- The order of the results. -/
def sortParts (order : Option SortOrder) : List String :=
  order.toList.map fun order =>
    match order.direction with
    | .desc => writeFilter sortKeyword "" order.field
    | .asc => writeFilter sortKeyword "" (order.field ++ ":asc")

/-- The free text, unless it is empty. -/
def freeTextParts (clock : Clock) (text : Option String) : List String :=
  (text.filter (!·.isEmpty)).toList.map fun text =>
    String.ofList (writeText clock text.toList)

/-- The query of a search. -/
def Filters.canonical (clock : Clock) (filters : Filters) (order : Option SortOrder) : String :=
  String.intercalate " " <|
    (filters.status.getD []).map (writeFilter "is" "") ++
    (filters.level.getD []).map (writeFilter "level" "") ++
    countParts filters ++ userParts filters ++
    dateParts "first_seen" filters.firstSeenAfter filters.firstSeenBefore ++
    dateParts "last_seen" filters.lastSeenAfter filters.lastSeenBefore ++
    sortParts order ++ freeTextParts clock filters.text

/-- The canonical form of a query. -/
def Query.canonical (clock : Clock) (query : Query) : String :=
  query.filters.canonical clock query.sort

end IssueSearch
