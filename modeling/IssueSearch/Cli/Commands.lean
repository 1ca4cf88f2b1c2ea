import IssueSearch.Canonical
import IssueSearch.Cli.Config
import IssueSearch.Cli.Report
import IssueSearch.Record.Request

/-!
# The commands

Each command turns a query into a report.

* `caretLine`, `caretLine?`: marks under a part of a query, by characters and by bytes;
* `tokensReport`, `parseReport`, `normalizeReport`, `suggestReport`,
  `requestReport`, `fieldsReport`: the commands.
-/

namespace IssueSearch.Cli

open Time (Instant)

/-! ## Tokens -/

/-- A token as a row of a table. -/
def tokenRow (index : Nat) (token : Token) : List String :=
  [toString (index + 1), token.kind.name,
    ((token.field.map fun field => (if token.negated then "-" else "") ++ field).getD ""),
    ((token.operator.map Operator.name).getD ""), token.value,
    toString token.startIndex ++ ".." ++ toString token.endIndex, token.raw]

/-- A token by its kind and place. -/
def tokenMark (token : Token) : String :=
  token.kind.name ++ "[" ++ toString token.startIndex ++ ".." ++ toString token.endIndex ++ "]"

/-- The tokens of a query as a result. -/
def shownTokens (tokens : List Token) : Shown where
  json := .array (tokens.map Token.toJson)
  table := {
    header := ["#", "Type", "Field", "Op", "Value", "Span", "Raw"]
    rows := tokens.zipIdx.map fun (token, index) => tokenRow index token }
  compact := String.intercalate " " (tokens.map tokenMark)

/-- The tokens of a query. -/
def tokensReport (printer : Printer) (query : String) : Report :=
  let tokens := Schema.standard.tokenize query
  if printer.isTable && tokens.isEmpty then .info printer "Query is empty"
  else .display printer (shownTokens tokens)

/-! ## Meaning -/

/-- The marks under the part of a query between two byte offsets, one for each
character and one at least. -/
def caretLine (query : String) (first last : Nat) : String :=
  let chars := query.toList
  let before := Text.takeBytes first chars
  let upTo := Text.takeBytes (max last first) chars
  Table.repeated before.length ' ' ++ Table.repeated (max (upTo.length - before.length) 1) '^'

/-- The last boundary of a text that is not after an index, or behind its end. -/
def floorBoundary? (text : String) (index : Nat) : Option Nat :=
  Text.clamp? text index

/-- The marks under the slice of a query between two byte offsets.  There is no value if a slice is
out of bounds. -/
def caretLine? (query : String) (first last : Nat) : Option String := do
  let start ← floorBoundary? query first
  let stop ← floorBoundary? query (max last start)
  let before ← Text.slice? query 0 start
  let marked ← Text.slice? query start stop
  some (Table.repeated before.length ' ' ++ Table.repeated (max marked.length 1) '^')

/-- The query that a canonical form is written from, at one time. -/
def canonicalAt (now : Instant) (query : Query) : String :=
  query.canonical fun _ => now

/-- The meaning of a query as a result. -/
def shownQuery (now : Instant) (query : Query) : Shown where
  json := query.toJson
  table := {
    header := ["Part", "Value"]
    rows := [
      ["Filters", if query.filters.isEmpty then "(none)" else query.filters.toJson.pretty],
      ["Sort",
        (query.sort.map fun order => order.field ++ " " ++ order.direction.name).getD "(default)"],
      ["Free text", query.freeText],
      ["Errors", toString query.errors.length]] }
  compact := canonicalAt now query ++ " [" ++ toString query.errors.length ++ " error(s)]"

/-- A diagnostic, with the query and marks under the token. -/
def diagnosticReport (printer : Printer) (text : String) (diagnostic : Diagnostic) : Report :=
  .warning printer diagnostic.message ++ .indented printer text ++
    .indentedMarker printer (caretLine text diagnostic.startIndex diagnostic.endIndex)

/-- What a table of the meaning leaves out: the diagnostics. -/
def diagnosticsReport (printer : Printer) (text : String) (query : Query) : Report :=
  if query.hasErrors then
    .heading printer "Errors" ++ .join (query.errors.map (diagnosticReport printer text))
  else .success printer "No errors"

/-- The meaning of a query.  A strict reading fails if a token was rejected. -/
def parseReport (printer : Printer) (now : Instant) (text : String) (strict : Bool) : Report :=
  let query := Schema.standard.parse now text
  .display printer (shownQuery now query) ++
    (if printer.isTable then diagnosticsReport printer text query else .empty) ++
    (if strict && query.hasErrors then .fail (.query (Diagnostic.summary query.errors)) else .empty)

/-! ## Canonical form -/

/-- The canonical form of a query. -/
def normalizeReport (printer : Printer) (now : Instant) (text : String) : Report :=
  let query := Schema.standard.parse now text
  let canonical := canonicalAt now query
  let rejected := query.errors.length
  .display printer {
      json := .object [("query", .string text), ("normalized", .string canonical),
        ("rejected", .int rejected)]
      table := { header := ["Input", "Canonical"], rows := [[text, canonical]] }
      compact := canonical } ++
    if printer.isTable && 0 < rejected then
      .warning printer (toString rejected ++
        " invalid token(s) left out; run 'bugwatch-search parse' for details")
    else .empty

/-! ## Suggestions -/

/-- A suggestion as a row of a table. -/
def suggestionRow (index : Nat) (suggestion : Suggestion) : List String :=
  [toString (index + 1), suggestion.kind.name, suggestion.label, suggestion.value,
    suggestion.category.getD "", (suggestion.count.map toString).getD "",
    Decimal.fixed 2 suggestion.score.shown]

/-- The suggestions for a query as a result. -/
def shownSuggestions (suggestions : List Suggestion) : Shown where
  json := .array (suggestions.map
    (Suggestion.toJson fun score => .real (Decimal.shortest score.shown)))
  table := {
    header := ["#", "Type", "Label", "Insert", "Category", "Count", "Score"]
    rows := suggestions.zipIdx.map fun (suggestion, index) => suggestionRow index suggestion }
  compact := String.intercalate "\n" (suggestions.map (·.value))

/-- The suggestions for a query with the cursor at a byte offset, or at its
end. -/
def suggestReport (printer : Printer) (config : Config) (query : String) (cursor : Option Nat) :
    Report :=
  let cursor := cursor.getD query.utf8ByteSize
  let saved := config.savedForProject
  let suggestions :=
    Completion.suggest .standard query cursor config.history saved config.facets
  let word := String.ofList (Completion.wordBefore query.toList cursor)
  .note printer (toString config.history.length ++ " history entr(ies), " ++
      toString saved.length ++ " saved search(es), facets " ++
      if config.facets.isSome then "loaded" else "absent") ++
    (if printer.isTable then .keyValue printer "Word under cursor" word else .empty) ++
    if printer.isTable && suggestions.isEmpty then .info printer "No suggestions"
    else .display printer (shownSuggestions suggestions)

/-! ## Requests -/

/-- The request that a query is sent as. -/
def requestReport (printer : Printer) (config : Config) (now : Instant) (text : String)
    (page perPage : Option UInt32) : Report :=
  let query := Schema.standard.parse now text
  let request := SearchRequest.ofQuery query (.ofOptions page (perPage.or config.perPage))
  .display printer {
      json := request.toJson
      table := { header := ["Request Body"], rows := [[request.toJson.pretty]] }
      compact := request.toJson.compact } ++
    if printer.isTable then
      .join (query.errors.map fun diagnostic =>
        .warning printer ("Left out: " ++ diagnostic.display))
    else .empty

/-! ## Fields -/

/-- A field as a row of a table. -/
def fieldRow (field : Field) : List String :=
  [field.name, field.type.name,
    String.intercalate " " (field.operators.map fun op => ":" ++ op.symbol),
    String.intercalate ", " field.values, String.intercalate ", " field.aliases,
    field.description]

/-- The fields that a query may filter by. -/
def fieldsReport (printer : Printer) : Report :=
  let fields := Schema.standard.fields
  .display printer {
      json := .object [("fields", .array (fields.map Field.toJson)),
        ("sortable", .strings sortableFields)]
      table := {
        header := ["Field", "Type", "Operators", "Values", "Aliases", "Description"]
        rows := fields.map fieldRow }
      compact := String.intercalate " " (fields.map (·.name)) } ++
    if printer.isTable then
      .heading printer "Sorting" ++
        .bullet printer ("sort:<field>[:asc] with field one of " ++
          String.intercalate ", " sortableFields) ++
        .bullet printer "Prefix any filter with '-' to negate it (validated, not yet applied)"
    else .empty

end IssueSearch.Cli
