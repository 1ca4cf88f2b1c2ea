import IssueSearch.Proofs.Schema
import IssueSearch.Proofs.Token.Ending
import IssueSearch.Proofs.Token.Scan

/-!
# How tokens are written

The grammar of a query without its scanner.  A filter is a dash or none, a name, a colon, an
operator and a value; a value is bare or stands behind a quote; a text is a value.

* `IsWrittenValue`: a value as it is written in front of the rest of its query;
* `IsLongestSymbol`: the operator that a text starts with;
* `IsWrittenOn`: the text is a dash or none, a name, a colon and anything;
* `Token.IsWrittenFilter`, `Token.IsWritten`: a filter and any token as they are written;
* `isWrittenValue_readValue`, `isLongestSymbol_leadingSymbol`, `isWritten_token`: what is read of
  a text is written in this way;
* `tokenize_written`: so is every token of a query, where it stands.
-/

namespace IssueSearch

open Text (isBlank isSolid byteLength IsSeam)

/-! ## Values -/

/-- How a value is written in front of the rest of its query. -/
inductive IsWrittenValue (after : List Char) : List Char → List Char → Prop where
  /-- Without a quote in front of it, up to the next blank or the end. -/
  | bare {word : List Char} (hquote : word.head? ≠ some '"')
      (hword : ∀ c ∈ word, isSolid c = true) (hafter : IsSeam after) :
      IsWrittenValue after word word
  /-- From a quote to the next one. -/
  | closed {inner : List Char} (hinner : '"' ∉ inner) :
      IsWrittenValue after ('"' :: inner ++ ['"']) inner
  /-- From a quote to the end, if there is no other quote. -/
  | unclosed {inner : List Char} (hinner : '"' ∉ inner) (hafter : after = []) :
      IsWrittenValue after ('"' :: inner) inner

/-- A value that starts with no quote is written as it is. -/
theorem IsWrittenValue.eq_of_head?_ne_quote {after written value : List Char}
    (h : IsWrittenValue after written value) (hquote : written.head? ≠ some '"') :
    value = written := by
  cases h with
  | bare => rfl
  | closed | unclosed => exact absurd rfl hquote

/-- A value is written where it is read. -/
theorem isWrittenValue_readValue (text : List Char) :
    IsWrittenValue (readValue text).rest (readValue text).raw (readValue text).value := by
  rcases readValue_cases text with ⟨inner, rfl, hinner, hread⟩ |
    ⟨inner, rest, _, hinner, hread⟩ | ⟨word, rest, _, hword, hquote, hrest, hread⟩
  · rw [hread]
    exact .unclosed hinner rfl
  · rw [hread]
    exact .closed hinner
  · rw [hread]
    exact .bare hquote hword hrest

/-! ## Operators -/

/-- The symbol of an operator, or none, at the start of a text where no longer one stands. -/
structure IsLongestSymbol (symbol text : List Char) : Prop where
  isSymbol : (Operator.ofSymbol? symbol).isSome = true
  isPrefix : symbol <+: text
  longest : ∀ other, (Operator.ofSymbol? other).isSome = true → other <+: text →
    other.length ≤ symbol.length

/-- The symbols of operators: of two characters, of one, or empty. -/
theorem symbol_cases {symbol : List Char} (h : (Operator.ofSymbol? symbol).isSome = true) :
    symbol ∈ [['>', '='], ['<', '='], ['!', '=']] ∨
      (∃ c ∈ ['>', '<', '!', '='], symbol = [c]) ∨ symbol = [] := by
  revert h
  fun_cases Operator.ofSymbol? symbol <;> simp

/-- The leading symbol is the longest one. -/
theorem isLongestSymbol_leadingSymbol (text : List Char) :
    IsLongestSymbol (Operator.leadingSymbol text) text where
  isSymbol := Operator.ofSymbol?_leadingSymbol_isSome text
  isPrefix := ⟨_, Operator.leadingSymbol_append_drop text⟩
  longest other hother hstart := by
    obtain ⟨rest, rfl⟩ := hstart
    rcases symbol_cases hother with hlong | ⟨c, hc, rfl⟩ | rfl
    · simp only [List.mem_cons, List.not_mem_nil, or_false] at hlong
      rcases hlong with rfl | rfl | rfl <;> exact Nat.le_refl 2
    · exact List.length_pos_iff.mpr (leadingSymbol_ne_nil rest hc)
    · exact Nat.zero_le _

/-! ## Words that are written like filters -/

/-- The text is written like a filter on the name: after a dash or none come the name,
which is an identifier, and a colon. -/
def IsWrittenOn (name text : List Char) : Prop :=
  isName name = true ∧ ∃ dash rest, (dash = [] ∨ dash = ['-']) ∧ text = dash ++ name ++ ':' :: rest

/-- A text is written like a filter on a name when, and only when, the head of a filter
with the name is read. -/
theorem isWrittenOn_iff {name text : List Char} :
    IsWrittenOn name text ↔
      ∃ head rest, FilterHead.read? text = some (head, rest) ∧ head.name = name := by
  constructor
  · rintro ⟨hname, dash, rest, hdash, rfl⟩
    rcases hdash with rfl | rfl
    · refine ⟨⟨false, name⟩, rest, ?_, rfl⟩
      rw [read?_eq_some_iff]
      exact ⟨hname, by simp [FilterHead.raw]⟩
    · refine ⟨⟨true, name⟩, rest, ?_, rfl⟩
      rw [read?_eq_some_iff]
      exact ⟨hname, by simp [FilterHead.raw]⟩
  · rintro ⟨head, rest, hread, rfl⟩
    obtain ⟨hname, rfl⟩ := (read?_eq_some_iff _ _ _).mp hread
    refine ⟨hname, if head.negated then ['-'] else [], rest, ?_, by simp [FilterHead.raw]⟩
    cases head.negated <;> simp

/-- What is written like a filter starts with no quote. -/
theorem IsWrittenOn.head?_ne_quote {name text : List Char} (h : IsWrittenOn name text) :
    text.head? ≠ some '"' := by
  obtain ⟨head, rest, hread, _⟩ := isWrittenOn_iff.mp h
  obtain ⟨hname, rfl⟩ := (read?_eq_some_iff _ _ _).mp hread
  exact head?_raw_append_ne_quote hname rest

/-! ## Filters -/

/-- How a filter is written in front of the rest of its query, with the parts behind its
dash. -/
structure Token.IsWrittenFilter (token : Token) (schema : Schema)
    (name symbol written after : List Char) : Prop where
  raw_eq : token.raw.toList =
    (if token.negated then ['-'] else []) ++ name ++ ':' :: (symbol ++ written)
  identifier : isName name = true
  denotes : (isSortKeyword name = true ∧ token.kind = .sort ∧ token.field = some sortKeyword) ∨
    (isSortKeyword name = false ∧ token.kind = .field ∧
      ∃ field, schema.lookup name = some field ∧ token.field = some field.name)
  longest : IsLongestSymbol symbol (symbol ++ (written ++ after))
  operator_eq : token.operator = Operator.ofSymbol? symbol
  value : IsWrittenValue after written token.value.toList

/-- A filter is written on its name. -/
theorem Token.IsWrittenFilter.isWrittenOn {token : Token} {schema : Schema}
    {name symbol written after : List Char}
    (h : token.IsWrittenFilter schema name symbol written after) :
    IsWrittenOn name token.raw.toList := by
  refine ⟨h.identifier, if token.negated then ['-'] else [], symbol ++ written, ?_, h.raw_eq⟩
  cases token.negated <;> simp

/-- A filter that is read is written as one. -/
theorem isWrittenFilter_token {schema : Schema} {head : FilterHead} {subject : Schema.Subject}
    (hname : isName head.name = true) (hresolve : schema.resolve? head.name = some subject)
    (body : List Char) (start : Nat) :
    let reading := filterReading head subject body
    ∃ symbol written,
      (reading.token start).IsWrittenFilter schema head.name symbol written reading.rest := by
  intro reading
  refine ⟨Operator.leadingSymbol body,
    (readValue (body.drop (Operator.leadingSymbol body).length)).raw, ?_⟩
  constructor
  case raw_eq => simp [reading, filterReading, Reading.token, FilterHead.raw]
  case identifier => exact hname
  case denotes =>
    cases subject with
    | sort => exact Or.inl ⟨resolve?_eq_sort_iff.mp hresolve, rfl, rfl⟩
    | field canonical =>
      obtain ⟨hsort, field, hlookup, rfl⟩ := resolve?_eq_field_iff.mp hresolve
      exact Or.inr ⟨hsort, rfl, field, hlookup, rfl⟩
  case longest =>
    have hvalue := readValue_parts (body.drop (Operator.leadingSymbol body).length)
    have hrest : reading.rest =
        (readValue (body.drop (Operator.leadingSymbol body).length)).rest := rfl
    rw [hrest, hvalue, Operator.leadingSymbol_append_drop]
    exact isLongestSymbol_leadingSymbol body
  case operator_eq => rfl
  case value =>
    have hwritten := isWrittenValue_readValue (body.drop (Operator.leadingSymbol body).length)
    simpa [reading, filterReading, Reading.token] using hwritten

/-! ## Tokens -/

/-- How a token is written in front of the rest of its query, by its kind. -/
structure Token.IsWritten (token : Token) (schema : Schema) (after : List Char) : Prop where
  filter : token.isFilter = true →
    ∃ name symbol written, token.IsWrittenFilter schema name symbol written after
  text : token.kind = .text → IsWrittenValue after token.raw.toList token.value.toList
  /-- What is written like a filter is a text only if its name denotes nothing. -/
  unnamed : token.kind = .text →
    ∀ name, IsWrittenOn name token.raw.toList → schema.resolve? name = none
  keyword : token.kind = .operator →
    token.raw = "OR" ∧ token.value = "OR" ∧ ∃ c ∈ after.head?, isBlank c = true

/-- What is read is written in front of the rest as what it is. -/
theorem isWritten_token {schema : Schema} {text : List Char} {reading : Reading}
    (hread : readLexeme? schema text = some reading) (start : Nat) :
    (reading.token start).IsWritten schema reading.rest := by
  cases lexemeForm hread with
  | phrase inner =>
    constructor
    case filter => simp [Reading.token, Token.isFilter]
    case text =>
      intro _
      have hwritten := isWrittenValue_readValue ('"' :: inner)
      simpa [Reading.token, readValue] using hwritten
    case unnamed =>
      intro _ name hname
      exact absurd (by simp [Reading.token, readQuoted]) hname.head?_ne_quote
    case keyword => simp [Reading.token]
  | @filter head subject body hname hresolve =>
    have hkind : subject.kind ≠ .text ∧ subject.kind ≠ .operator := by
      cases subject <;> simp [Schema.Subject.kind]
    obtain ⟨symbol, written, hwritten⟩ := isWrittenFilter_token hname hresolve body start
    exact ⟨fun _ => ⟨head.name, symbol, written, hwritten⟩, fun htext => absurd htext hkind.1,
      fun htext => absurd htext hkind.1, fun hor => absurd hor hkind.2⟩
  | @keyword c rest hc =>
    constructor
    case filter => simp [Reading.token, Token.isFilter]
    case text | unnamed => simp [Reading.token]
    case keyword => exact fun _ => ⟨rfl, rfl, c, rfl, hc⟩
  | @word word rest hword _ hquote hnames hrest _ =>
    constructor
    case filter => simp [Reading.token, Token.isFilter]
    case text =>
      intro _
      have hwritten : IsWrittenValue rest word word := .bare hquote hword hrest
      simpa [Reading.token] using hwritten
    case unnamed =>
      intro _ name hname
      obtain ⟨head, tail, hhead, rfl⟩ := isWrittenOn_iff.mp hname
      refine hnames head tail ?_
      simpa [Reading.token] using hhead
    case keyword => simp [Reading.token]

/-- Every token is written in front of the rest of its query as what it is. -/
theorem exists_isWritten {schema : Schema} {query : String} {token : Token}
    (h : token ∈ schema.tokenize query) : ∃ after, token.IsWritten schema after := by
  obtain ⟨before, part, reading, _, hread, rfl⟩ := exists_reading_at schema 0 query.toList token h
  exact ⟨reading.rest, isWritten_token hread _⟩

/-- Every token is written as what it is, where it stands.  A filter is a dash if it is negated,
a name that denotes its field, a colon, the longest operator that stands there, and a value; a
text is a value, and it is not written like a filter on a name that denotes something. -/
theorem tokenize_written (schema : Schema) (query : String) {token : Token}
    (h : token ∈ schema.tokenize query) :
    ∃ before after, query.toList = before ++ (token.raw.toList ++ after) ∧
      token.startIndex = byteLength before ∧ token.IsWritten schema after := by
  obtain ⟨before, part, reading, htext, hread, rfl⟩ :=
    exists_reading_at schema 0 query.toList token h
  refine ⟨before, reading.rest, ?_, Nat.zero_add _, isWritten_token hread _⟩
  rw [htext, ← (readLexeme?_parts hread).1]
  simp [Reading.token]

/-- A negated filter with a quoted value in front of another filter, a word that starts with an
operator, and a phrase that is never closed. -/
theorem tokenize_written_unclosed :
    let query := "-Severity:!=\"a b\"Sort:>=count =x \"open "
    let first : Token :=
      ⟨.field, some "level", some .ne, "a b", true, "-Severity:!=\"a b\"", 0, 17⟩
    let second : Token := ⟨.sort, some "sort", some .gte, "count", false, "Sort:>=count", 17, 29⟩
    let last : Token := ⟨.text, none, none, "open ", false, "\"open ", 33, 39⟩
    ∀ token ∈ [first, second, last], token ∈ Schema.standard.tokenize query ∧
      ∃ before after, query.toList = before ++ (token.raw.toList ++ after) ∧
        token.startIndex = byteLength before ∧ token.IsWritten Schema.standard after := by
  intro query first second last token htoken
  have hmem : ∀ token ∈ [first, second, last], token ∈ Schema.standard.tokenize query := by
    decide +kernel
  exact ⟨hmem token htoken, tokenize_written Schema.standard query (hmem token htoken)⟩

end IssueSearch
