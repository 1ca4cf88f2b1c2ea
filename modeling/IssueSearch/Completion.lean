import IssueSearch.SavedSearch
import IssueSearch.Score
import IssueSearch.Token.Scan

/-!
# Completing a query

Suggestions for the word under the cursor.  What is suggested depends on the
word:

* nothing was typed: saved searches, recent queries, and two filters to start
  with;
* the word is a filter: its values or operators;
* any other word: the fields that it may be the name of;
* nothing fits: a few useful filters.

Recent queries that hold the typed one come last.  At most ten suggestions are
made.

* `Suggestion`, `Facets`: the data;
* `wordBefore`, `wordBefore?`: the word under the cursor, by characters and by bytes;
* `FilterInProgress.read?`: a word that is a filter;
* `fieldSuggestions`, `valueSuggestions?`, `presets`, `startSuggestions`: the
  sources;
* `historyMatches`, `rank`, `suggest`: the whole list.
-/

namespace IssueSearch

/-- What a suggestion stands for. -/
inductive SuggestionKind where
  | field
  | value
  | history
  | saved
  | operator
  deriving Repr, DecidableEq, Inhabited

namespace SuggestionKind

/-- The name of a kind in records and tables. -/
def name : SuggestionKind → String
  | field => "field"
  | value => "value"
  | history => "history"
  | saved => "saved"
  | operator => "operator"

end SuggestionKind

/-- A replacement for the word under the cursor. -/
structure Suggestion where
  kind : SuggestionKind
  label : String
  value : String
  score : Score
  description : Option String := none
  icon : Option String := none
  category : Option String := none
  /-- How many results have the value. -/
  count : Option UInt32 := none
  deriving DecidableEq, Inhabited

/-- How many results have each value of an `enum` field. -/
structure Facets where
  level : List (String × UInt32) := []
  status : List (String × UInt32) := []
  deriving Repr, DecidableEq, Inhabited

/-- The counts of a field, if results are counted by it. -/
def Facets.counts? (facets : Facets) (field : String) : Option (List (String × UInt32)) :=
  if field = "is" then some facets.status
  else if field = "level" then some facets.level
  else none

namespace Completion

/-! ## The word under the cursor -/

/-- The word that ends at a byte offset. -/
def wordBefore (query : List Char) (cursor : Nat) : List Char :=
  ((Text.takeBytes cursor query).reverse.takeWhile Text.isSolid).reverse

/-- The offset behind the last blank of a text. -/
def wordStart (text : List Char) : Nat :=
  ((Text.charOffsets 0 text).reverse.find? fun (_, c) => Text.isBlank c).elim 0
    fun (offset, c) => offset + c.utf8Size

/-- The word that ends at a byte offset, as a slice of what stands before the offset.  There is no
value if a slice is out of bounds. -/
def wordBefore? (query : String) (cursor : Nat) : Option String := do
  let place ← Text.clamp? query cursor
  let before ← Text.slice? query 0 place
  Text.slice? before (wordStart before.toList) before.utf8ByteSize

/-- A filter that is being typed. -/
structure FilterInProgress where
  name : List Char
  operator : Option Operator
  /-- What has been typed of the value. -/
  partialValue : List Char
  /-- The characters before the value. -/
  typed : List Char
  deriving Repr, DecidableEq

/-- The filter that a word is. -/
def FilterInProgress.read? (word : List Char) : Option FilterInProgress :=
  (FilterHead.read? word).map fun (head, rest) =>
    let symbol := Operator.leadingSymbol rest
    { name := head.name
      operator := if symbol.isEmpty then none else Operator.ofSymbol? symbol
      partialValue := rest.drop symbol.length
      typed := head.raw ++ symbol }

/-- The fields, and the sort keyword, that a query filters by. -/
def usedFields (schema : Schema) (query : String) : List String :=
  (schema.tokenize query).filterMap fun token => if token.isFilter then token.field else none

/-! ## Sources -/

/-- A suggestion for each item of a list, with falling scores. -/
def falling {α : Type} (items : List α) (top : Nat) (make : α → Score → Suggestion) :
    List Suggestion :=
  items.zipIdx.map fun (item, index) => make item ((top : Rat) - (index : Rat))

/-- What has been typed, with more behind it. -/
def extend (typed : List Char) (more : String) : String :=
  String.ofList typed ++ more

/-- The values that start with what has been typed. -/
def startingWith {α : Type} (partialValue : List Char) (text : α → String) (items : List α) :
    List α :=
  let lowered := Text.lowercase partialValue
  items.filter fun item => lowered.isPrefixOf (text item).toList

/-- The values of an `enum` field. -/
def enumValues (field : Field) (word : FilterInProgress) (facets : Option Facets) :
    List Suggestion :=
  let counts := facets.bind (·.counts? field.name)
  falling (startingWith word.partialValue id field.values) 50 fun value score =>
    { kind := .value, label := value, value := extend word.typed value, score
      category := some "Values"
      count := counts.map fun counts => (counts.lookup value).getD 0 }

/-- Times before now that are often asked for, with their labels. -/
def dateShortcuts : List (String × String) :=
  [("today", "Today"), ("7d", "Last 7 days"), ("14d", "Last 14 days"), ("30d", "Last 30 days"),
    ("90d", "Last 90 days")]

/-- An operator to go on with after the name of a field. -/
def operatorStub (word : FilterInProgress) (symbol description : String) (score : Score) :
    Suggestion :=
  { kind := .operator, label := symbol, value := extend word.typed symbol, score
    description := some description, category := some "Operators" }

/-- The values of a date.  A shortcut means the time since then, unless an
operator has been typed. -/
def dateValues (word : FilterInProgress) : List Suggestion :=
  let implied := if word.operator.isNone then ">" else ""
  let shortcuts := falling (startingWith word.partialValue Prod.fst dateShortcuts) 50
    fun (value, label) score =>
      { kind := .value, label, value := extend word.typed (implied ++ value), score
        category := some "Values" }
  if word.operator.isNone && word.partialValue.isEmpty then
    shortcuts ++ [operatorStub word ">" "After a date" 40, operatorStub word "<" "Before a date" 39]
  else shortcuts

/-- The comparisons of numbers, with their descriptions. -/
def numberOperators : List (Operator × String) :=
  [(.gt, "Greater than"), (.lt, "Less than"), (.gte, "Greater than or equal"),
    (.lte, "Less than or equal")]

/-- The operators of a number, as long as nothing has been typed after the
name. -/
def numberStubs (field : Field) (word : FilterInProgress) : List Suggestion :=
  if word.operator.isNone && word.partialValue.isEmpty then
    falling (numberOperators.filter fun (op, _) => field.allows op) 40
      fun (op, description) score => operatorStub word op.symbol description score
  else []

/-- The fields that results can be ordered by. -/
def sortValues (word : FilterInProgress) : List Suggestion :=
  falling (startingWith word.partialValue id sortableFields) 50 fun field score =>
    let spaced := String.ofList (field.toList.map fun c => if c = '_' then ' ' else c)
    { kind := .value, label := field, value := extend word.typed field, score
      description := some ("Sort by " ++ spaced), category := some "Values" }

/-- The values of a filter, if its name denotes a field or the sort order. -/
def valueSuggestions? (schema : Schema) (word : FilterInProgress) (facets : Option Facets) :
    Option (List Suggestion) :=
  if isSortKeyword word.name then some (sortValues word)
  else (schema.lookup word.name).map fun field =>
    match field.type with
    | .enum => enumValues field word facets
    | .date => dateValues word
    | .number => numberStubs field word
    | .text => []

/-- The better of two scores. -/
def better (first second : Score) : Score :=
  if first ≤ second then second else first

/-- The best score of a field's names. -/
def fieldScore (field : Field) (needle : List Char) : Score :=
  (field.aliases.map fun other => matchScore other.toList needle).foldl better
    (matchScore field.name.toList needle)

/-- A filter to start with its name. -/
def nameSuggestion (dash name description : String) (score : Score) : Suggestion :=
  { kind := .field, label := name ++ ":", value := dash ++ name ++ ":", score
    description := some description, category := some "Fields" }

/-- The fields that a word may be the name of, without those in use. -/
def fieldSuggestions (schema : Schema) (word : List Char) (query : String) : List Suggestion :=
  let (dash, needle) := match word with
    | '-' :: rest => ("-", rest)
    | _ => ("", word)
  let used := usedFields schema query
  let fields := schema.fields.filterMap fun field =>
    let score := fieldScore field needle
    if used.contains field.name || score ≤ 0 then none
    else some (nameSuggestion dash field.name field.description score)
  let sortScore := matchScore sortKeyword.toList needle
  if used.contains sortKeyword || sortScore ≤ 0 then fields
  else fields ++ [nameSuggestion "" sortKeyword "Sort results" sortScore]

/-- A useful filter. -/
def preset (filter description : String) (score : Score) : Suggestion :=
  { kind := .field, label := filter, value := filter, score
    description := some description, category := some "Suggested" }

/-- Useful filters on fields that are not in use. -/
def presets (schema : Schema) (query : String) : List Suggestion :=
  let used := usedFields schema query
  (if used.contains "is" then [] else [preset "is:unresolved" "Show unresolved issues" 30]) ++
  (if used.contains "level" then [] else [preset "level:error" "Show errors only" 29]) ++
  [preset "last_seen:>1d" "Seen in the last 24 hours" 28]

/-- A query of the history. -/
def historySuggestion (entry : String) (score : Score) : Suggestion :=
  { kind := .history, label := entry, value := entry, score
    icon := some "clock", category := some "Recent" }

/-- A saved search. -/
def savedSuggestion (saved : SavedSearch) (score : Score) : Suggestion :=
  { kind := .saved, label := saved.name, value := saved.query, score
    description := some saved.query, icon := some "bookmark", category := some "Saved Searches" }

/-- A filter to start a query with. -/
def quickStart (filter description : String) (score : Score) : Suggestion :=
  { kind := .field, label := filter, value := filter, score
    description := some description, category := some "Quick Start" }

/-- What to start a query with. -/
def startSuggestions (history : List String) (saved : List SavedSearch) : List Suggestion :=
  falling (saved.take 3) 100 savedSuggestion ++
  falling (history.take 5) 80 historySuggestion ++
  [quickStart "is:" "Filter by status" 60, quickStart "level:" "Filter by level" 59]

/-! ## The whole list -/

/-- The greatest number of suggestions. -/
def maxSuggestions : Nat :=
  10

/-- The suggestions by falling score; equal scores keep their order. -/
def rank (suggestions : List Suggestion) : List Suggestion :=
  suggestions.mergeSort fun a b => decide (b.score ≤ a.score)

/-- Queries of the history that hold the typed one, without itself and what has
been suggested already. -/
def historyMatches (query : String) (history : List String) (suggested : List Suggestion) :
    List Suggestion :=
  let typed := Text.trim query.toList
  let needle := Text.lowercase typed
  let found := history.filter fun entry =>
    Text.trim entry.toList != typed && occursIn needle (Text.lowercase entry.toList) &&
      !suggested.any (·.value == entry)
  falling (found.take 3) 10 historySuggestion

/-- The suggestions for a word of a query that is not blank, without the
history. -/
def wordSuggestions (schema : Schema) (query : String) (word : List Char)
    (facets : Option Facets) : List Suggestion :=
  match FilterInProgress.read? word with
  | some filter => (valueSuggestions? schema filter facets).getD (presets schema query)
  | none =>
      let fields := if word.isEmpty then [] else fieldSuggestions schema word query
      if fields.isEmpty then presets schema query else fields

/-- The suggestions for a query with the cursor at a byte offset. -/
def suggest (schema : Schema) (query : String) (cursor : Nat) (history : List String)
    (saved : List SavedSearch) (facets : Option Facets) : List Suggestion :=
  if (Text.trim query.toList).isEmpty then
    (rank (startSuggestions history saved)).take maxSuggestions
  else
    let word := wordBefore query.toList cursor
    let ranked := rank (wordSuggestions schema query word facets)
    (ranked ++ historyMatches query history ranked).take maxSuggestions

end Completion

end IssueSearch
