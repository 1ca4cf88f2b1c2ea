import IssueSearch.Schema
import IssueSearch.Text.Blank
import IssueSearch.Text.Offset
import IssueSearch.Token
import IssueSearch.Token.Head

/-!
# Scanning a query

A query is a row of lexemes with blanks between them.  At each place the first
rule that reads something wins:

1. a quoted phrase, up to the next quote or the end of the text;
2. a filter: `[-]name:`, an operator symbol and a value, where the name denotes
   a field or the sort order;
3. the keyword `OR` before a blank;
4. a word, up to the next blank.

A character at which no rule reads anything is passed over.

* `Reading`: what a rule reads, as the characters taken and the rest;
* `readValue`, `readPhrase?`, `readFilter?`, `readOr?`, `readWord?`: the rules;
* `readLexeme?_parts`: the rules lose no character of the text, and take at least
  one;
* `scanFrom`, `Schema.tokenize`: the whole query.
-/

namespace IssueSearch

/-- A value at the start of a text: its characters as written, the value that
they stand for, and what follows. -/
structure ValueReading where
  raw : List Char
  value : List Char
  rest : List Char

/-- Whether a character is not a quote. -/
def isUnquote (c : Char) : Bool :=
  c != '"'

/-- The text after an opening quote: the value goes up to the next quote, which
is taken too, or to the end. -/
def readQuoted (text : List Char) : ValueReading where
  raw := '"' :: (text.takeWhile isUnquote ++ (text.dropWhile isUnquote).take 1)
  value := text.takeWhile isUnquote
  rest := (text.dropWhile isUnquote).drop 1

/-- A quoted value, or the solid characters up to the next blank. -/
def readValue : List Char → ValueReading
  | '"' :: rest => readQuoted rest
  | text =>
      { raw := text.takeWhile Text.isSolid
        value := text.takeWhile Text.isSolid
        rest := text.dropWhile Text.isSolid }

/-- A token without its place. -/
structure Lexeme where
  kind : TokenKind
  field : Option String := none
  operator : Option Operator := none
  value : List Char
  negated : Bool := false

/-- What a rule reads: a lexeme, its characters, and what follows. -/
structure Reading where
  lexeme : Lexeme
  raw : List Char
  rest : List Char

/-- A quoted phrase. -/
def readPhrase? : List Char → Option Reading
  | '"' :: rest =>
      let phrase := readQuoted rest
      some ⟨{ kind := .text, value := phrase.value }, phrase.raw, phrase.rest⟩
  | _ => none

/-- A filter whose name denotes a field or the sort order. -/
def readFilter? (schema : Schema) (text : List Char) : Option Reading := do
  let (head, rest) ← FilterHead.read? text
  let subject ← schema.resolve? head.name
  let symbol := Operator.leadingSymbol rest
  let operator ← Operator.ofSymbol? symbol
  let value := readValue (rest.drop symbol.length)
  let (kind, field) := match subject with
    | .sort => (TokenKind.sort, sortKeyword)
    | .field name => (TokenKind.field, name)
  some {
    lexeme := {
      kind, field := some field, operator := some operator, value := value.value,
      negated := head.negated }
    raw := head.raw ++ symbol ++ value.raw
    rest := value.rest }

/-- The keyword `OR` before a blank. -/
def readOr? : List Char → Option Reading
  | 'O' :: 'R' :: c :: rest =>
      if Text.isBlank c then
        some ⟨{ kind := .operator, value := ['O', 'R'] }, ['O', 'R'], c :: rest⟩
      else none
  | _ => none

/-- A word. -/
def readWord? (text : List Char) : Option Reading :=
  let word := text.takeWhile Text.isSolid
  if word.isEmpty then none
  else some ⟨{ kind := .text, value := word }, word, text.dropWhile Text.isSolid⟩

/-- The lexeme at the start of a text, by the first rule that reads one. -/
def readLexeme? (schema : Schema) (text : List Char) : Option Reading :=
  (readPhrase? text).or ((readFilter? schema text).or ((readOr? text).or (readWord? text)))

/-! ## The rules lose nothing -/

/-- A quoted value and the rest are the text with its opening quote. -/
theorem readQuoted_parts (text : List Char) :
    (readQuoted text).raw ++ (readQuoted text).rest = '"' :: text := by
  simp only [readQuoted, List.cons_append, List.append_assoc, List.take_append_drop,
    List.takeWhile_append_dropWhile]

/-- A value and the rest are the whole text. -/
theorem readValue_parts (text : List Char) :
    (readValue text).raw ++ (readValue text).rest = text := by
  unfold readValue
  split
  · exact readQuoted_parts _
  · exact List.takeWhile_append_dropWhile

/-- A phrase and the rest are the whole text, and the phrase is not empty. -/
theorem readPhrase?_parts {text : List Char} {r : Reading} (h : readPhrase? text = some r) :
    r.raw ++ r.rest = text ∧ r.raw ≠ [] := by
  unfold readPhrase? at h
  split at h
  · next rest =>
    cases h
    exact ⟨readQuoted_parts rest, by simp [readQuoted]⟩
  · cases h

/-- A filter and the rest are the whole text, and the filter is not empty. -/
theorem readFilter?_parts {schema : Schema} {text : List Char} {r : Reading}
    (h : readFilter? schema text = some r) : r.raw ++ r.rest = text ∧ r.raw ≠ [] := by
  simp only [readFilter?, Option.bind_eq_bind, Option.bind_eq_some_iff] at h
  obtain ⟨⟨head, rest⟩, hhead, subject, _, operator, _, h⟩ := h
  cases h
  have symbol := Operator.leadingSymbol_append_drop rest
  have value := readValue_parts (rest.drop (Operator.leadingSymbol rest).length)
  refine ⟨?_, by simp [FilterHead.raw]⟩
  simp only [List.append_assoc, value, symbol]
  exact FilterHead.read?_parts hhead

/-- The keyword and the rest are the whole text. -/
theorem readOr?_parts {text : List Char} {r : Reading} (h : readOr? text = some r) :
    r.raw ++ r.rest = text ∧ r.raw ≠ [] := by
  unfold readOr? at h
  split at h
  · split at h
    · cases h
      simp
    · cases h
  · cases h

/-- A word and the rest are the whole text, and the word is not empty. -/
theorem readWord?_parts {text : List Char} {r : Reading} (h : readWord? text = some r) :
    r.raw ++ r.rest = text ∧ r.raw ≠ [] := by
  simp only [readWord?] at h
  split at h
  · cases h
  · next hword =>
    cases h
    exact ⟨List.takeWhile_append_dropWhile, by simpa using hword⟩

/-- The rule that reads a lexeme is one of the four. -/
theorem readLexeme?_cases {schema : Schema} {text : List Char} {r : Reading}
    (h : readLexeme? schema text = some r) :
    readPhrase? text = some r ∨
      (readPhrase? text = none ∧ readFilter? schema text = some r) ∨
      (readPhrase? text = none ∧ readFilter? schema text = none ∧ readOr? text = some r) ∨
      (readPhrase? text = none ∧ readFilter? schema text = none ∧ readOr? text = none ∧
        readWord? text = some r) := by
  simpa only [readLexeme?, Option.or_eq_some_iff, and_or_left, and_assoc] using h

/-- The characters taken and the rest are the whole text, and at least one is
taken. -/
theorem readLexeme?_parts {schema : Schema} {text : List Char} {r : Reading}
    (h : readLexeme? schema text = some r) : r.raw ++ r.rest = text ∧ r.raw ≠ [] := by
  rcases readLexeme?_cases h with h | ⟨_, h⟩ | ⟨_, _, h⟩ | ⟨_, _, _, h⟩
  · exact readPhrase?_parts h
  · exact readFilter?_parts h
  · exact readOr?_parts h
  · exact readWord?_parts h

/-- What follows a lexeme is shorter than the text. -/
theorem length_rest_readLexeme?_lt {schema : Schema} {text : List Char} {r : Reading}
    (h : readLexeme? schema text = some r) : r.rest.length < text.length := by
  obtain ⟨parts, raw⟩ := readLexeme?_parts h
  have total := congrArg List.length parts
  have taken := List.length_pos_iff.mpr raw
  rw [List.length_append] at total
  omega

/-! ## The whole query -/

/-- The token of a lexeme that starts at a byte offset. -/
def Reading.token (reading : Reading) (start : Nat) : Token where
  kind := reading.lexeme.kind
  field := reading.lexeme.field
  operator := reading.lexeme.operator
  value := String.ofList reading.lexeme.value
  negated := reading.lexeme.negated
  raw := String.ofList reading.raw
  startIndex := start
  endIndex := start + Text.byteLength reading.raw

/-- The tokens of a text that starts at a byte offset. -/
def scanFrom (schema : Schema) (start : Nat) (text : List Char) : List Token :=
  match _found : text.dropWhile Text.isBlank with
  | [] => []
  | c :: rest =>
      let place := start + Text.byteLength (text.takeWhile Text.isBlank)
      match _read : readLexeme? schema (c :: rest) with
      | some reading =>
          let token := reading.token place
          token :: scanFrom schema token.endIndex reading.rest
      | none => scanFrom schema (place + c.utf8Size) rest
termination_by text.length
decreasing_by
  all_goals
    have trimmed := Text.length_dropWhile_le Text.isBlank text
    rw [_found] at trimmed
  · exact Nat.lt_of_lt_of_le (length_rest_readLexeme?_lt _read) trimmed
  · exact Nat.lt_of_lt_of_le (Nat.lt_succ_self rest.length) trimmed

/-- The tokens of a query. -/
def Schema.tokenize (schema : Schema) (query : String) : List Token :=
  scanFrom schema 0 query.toList

end IssueSearch
