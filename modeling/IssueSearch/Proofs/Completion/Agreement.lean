import IssueSearch.Proofs.Completion.Accepted
import IssueSearch.Proofs.Token.Renaming

/-!
# Completing a filter keeps it

The word under the cursor is a filter to complete exactly when the scanner reads it as one, and
then both see the same field, dash and operator.  Each suggestion for it is one token by
itself: the filter that has been typed, with another value and, where none has been typed, with
an operator.

* `IsFilterOf`, `Agrees`: a filter that is being typed, and the token that it is;
* `isFilterOf_iff`: both readings of a word find a filter, or none does;
* `Extends`, `tokenize_of_extends`: the token of a filter with a value behind it;
* `Candidate`, `Completes`: what may be suggested behind a filter;
* `suggest_keeps_filter`: the tokens of all suggestions for a filter.
-/

namespace IssueSearch

open Text (isSolid)

/-- A head starts with a dash if it is negated, and only then. -/
theorem head?_raw_append_eq_dash_iff {head : FilterHead} (hname : isName head.name = true)
    (rest : List Char) : (head.raw ++ rest).head? = some '-' ↔ head.negated = true := by
  obtain ⟨negated, name⟩ := head
  cases negated with
  | true => simp [FilterHead.raw]
  | false =>
    cases name with
    | nil => cases hname
    | cons c name =>
      have hpart := FilterHead.isNamePart_of_mem hname c List.mem_cons_self
      refine iff_of_false (fun hdash => ?_) Bool.false_ne_true
      have hc : c = '-' := by simpa [FilterHead.raw] using hdash
      subst hc
      exact absurd hpart (by decide)

namespace Completion

/-! ## The two readings of a word -/

/-- The word is a filter that denotes the subject. -/
def IsFilterOf (schema : Schema) (word : List Char) (filter : FilterInProgress)
    (subject : Schema.Subject) : Prop :=
  FilterInProgress.read? word = some filter ∧ schema.resolve? filter.name = some subject

/-- The token is the filter that is being typed: on the same field, with the same dash, and
with the typed operator or else equality. -/
structure Agrees (filter : FilterInProgress) (subject : Schema.Subject) (token : Token) :
    Prop where
  kind : token.kind = subject.kind
  field : token.field = some subject.name
  negated : token.negated = true ↔ filter.typed.head? = some '-'
  operator : token.operator = some (filter.operator.getD .eq)

/-- The word under the cursor has no blanks. -/
theorem isSolid_of_mem_wordBefore {text : List Char} {cursor : Nat} {c : Char}
    (h : c ∈ wordBefore text cursor) : isSolid c = true := by
  have hall := List.all_takeWhile (p := isSolid) (l := (Text.takeBytes cursor text).reverse)
  exact List.all_eq_true.mp hall c (List.mem_reverse.mp h)

section

variable {schema : Schema} {word : List Char} {filter : FilterInProgress}
  {subject : Schema.Subject}

/-- The first token of a text that starts with a head. -/
theorem head?_tokenize_head {head : FilterHead} (hname : isName head.name = true)
    (hresolve : schema.resolve? head.name = some subject) (source : List Char) :
    (schema.tokenize (String.ofList (head.raw ++ source))).head? =
      some ((filterReading head subject source).token 0) := by
  rw [Schema.tokenize, String.toList_ofList,
    scanFrom_of_readLexeme? 0 (readLexeme?_head hname hresolve source), List.head?_cons]

/-- A filter that is being typed is the first token of its word. -/
theorem IsFilterOf.exists_token (h : IsFilterOf schema word filter subject) :
    ∃ token, (schema.tokenize (String.ofList word)).head? = some token ∧
      token.isFilter = true ∧ Agrees filter subject token := by
  obtain ⟨hread, hresolve⟩ := h
  obtain ⟨head, source, hname, rfl, hsame, htyped, _, hop⟩ := exists_head_of_read? hread
  rw [hsame] at hresolve
  refine ⟨_, head?_tokenize_head hname hresolve source, ?_, rfl, rfl, ?_, hop⟩
  · cases subject <;> rfl
  · rw [htyped, head?_raw_append_eq_dash_iff hname]
    rfl

/-- A word without blanks is a filter that is being typed if and only if its first token is
a filter. -/
theorem isFilterOf_iff (hword : ∀ c ∈ word, isSolid c = true) :
    (∃ filter subject, IsFilterOf schema word filter subject) ↔
      ∃ token, (schema.tokenize (String.ofList word)).head? = some token ∧
        token.isFilter = true := by
  constructor
  · intro ⟨filter, subject, h⟩
    obtain ⟨token, htoken, hfilter, _⟩ := h.exists_token
    exact ⟨token, htoken, hfilter⟩
  · intro ⟨token, htoken, hfilter⟩
    cases word with
    | nil =>
      rw [Schema.tokenize, String.toList_ofList, scanFrom_of_blank schema 0 (by simp)] at htoken
      cases htoken
    | cons c rest =>
      have hc := (Text.isSolid_iff c).mp (hword c List.mem_cons_self)
      obtain ⟨reading, hread⟩ := exists_readLexeme? schema rest hc
      rw [Schema.tokenize, String.toList_ofList, scanFrom_of_readLexeme? 0 hread,
        List.head?_cons] at htoken
      cases htoken
      obtain ⟨head, subject, body, hname, hresolve, hbody, _⟩ := exists_filterReading hread hfilter
      have hhead := (read?_eq_some_iff _ _ _).mpr ⟨hname, hbody⟩
      obtain ⟨filter, hread, hsame⟩ : ∃ filter,
          FilterInProgress.read? (c :: rest) = some filter ∧ filter.name = head.name := by
        rw [FilterInProgress.read?, hhead]
        exact ⟨_, rfl, rfl⟩
      exact ⟨filter, subject, hread, hsame ▸ hresolve⟩

/-- The text is what has been typed of a filter with a value behind it, after an operator if
none has been typed. -/
def Extends (filter : FilterInProgress) (op : Operator) (value text : String) : Prop :=
  (filter.operator = some op ∧ text = extend filter.typed value) ∨
    (filter.operator = none ∧ text = extend filter.typed (op.symbol ++ value))

/-- With a value behind it, a filter that is being typed is one token.  It differs from the
first token of the word in its value, and in its operator if none has been typed. -/
theorem tokenize_of_extends (h : IsFilterOf schema word filter subject) {token : Token}
    (htoken : (schema.tokenize (String.ofList word)).head? = some token) {op : Operator}
    {value text : String} (htext : Extends filter op value text) (hvalue : IsTail value.toList) :
    schema.tokenize text =
      [{ token with
        operator := some op
        value := value
        raw := text
        startIndex := 0
        endIndex := text.utf8ByteSize }] := by
  obtain ⟨hread, hresolve⟩ := h
  obtain ⟨head, source, hname, rfl, hsame, htyped, hnone, hop⟩ := exists_head_of_read? hread
  rw [hsame] at hresolve
  rw [head?_tokenize_head hname hresolve source] at htoken
  cases htoken
  -- the operator is the typed one, or stands behind the head by itself
  obtain ⟨typed, hchars, hsymbol⟩ : ∃ typed : List Char,
      text.toList = head.raw ++ (Operator.leadingSymbol typed ++ value.toList) ∧
      Operator.ofSymbol? (Operator.leadingSymbol typed) = some op := by
    rcases htext with ⟨hsome, rfl⟩ | ⟨hfree, rfl⟩
    · rw [hsome] at hop
      exact ⟨source, by simp [extend, htyped], hop⟩
    · refine ⟨op.symbol.toList, ?_, ?_⟩
      · rw [leadingSymbol_self]
        simp [extend, htyped, hnone hfree]
      · rw [leadingSymbol_self, Operator.ofSymbol?_symbol]
  have hreading := readLexeme?_head hname hresolve (Operator.leadingSymbol typed ++ value.toList)
  rw [← hchars, filterReading_of_isTail head subject hsymbol hvalue] at hreading
  rw [Schema.tokenize, scanFrom_of_readLexeme? 0 hreading, scanFrom_of_blank schema _ (by simp),
    ← hchars]
  simp [Reading.token, filterReading, Text.byteLength_eq_utf8ByteSize]

end

/-! ## Suggested values -/

/-- A value that may be suggested behind the name of a filter. -/
structure Candidate where
  value : String
  /-- How the suggestion is shown. -/
  label : String
  /-- The operator in front of the value, if none has been typed. -/
  operator : Operator

/-- The values of a field that may be suggested. -/
def fieldCandidates (field : Field) : List Candidate :=
  match field.type with
  | .enum => field.values.map fun value => ⟨value, value, .eq⟩
  | .date => dateShortcuts.map fun (value, label) => ⟨value, label, .gt⟩
  | .number => []
  | .text => []

/-- The values that may be suggested behind a name. -/
def candidates (schema : Schema) (name : List Char) : List Candidate :=
  if isSortKeyword name then sortableFields.map fun field => ⟨field, field, .eq⟩
  else ((schema.lookup name).map fieldCandidates).getD []

/-- The operator and the value that a suggestion gives a filter: those of a candidate that
starts with what has been typed, or an operator to go on with. -/
inductive Completes (schema : Schema) (filter : FilterInProgress) (suggestion : Suggestion) :
    Operator → String → Prop
  /-- The typed operator stays. -/
  | value (candidate : Candidate) (hmem : candidate ∈ candidates schema filter.name)
      (hkind : suggestion.kind = .value) (hlabel : suggestion.label = candidate.label)
      (htyped : Text.lowercase filter.partialValue <+: candidate.value.toList) :
      Completes schema filter suggestion (filter.operator.getD candidate.operator)
        candidate.value
  /-- Nothing has been typed behind the name. -/
  | operator (op : Operator) (hkind : suggestion.kind = .operator)
      (hlabel : suggestion.label = op.symbol) (hnone : filter.operator = none)
      (hempty : filter.partialValue = []) : Completes schema filter suggestion op ""

/-- No suggested value has blanks or starts like an operator. -/
theorem isTail_of_mem_candidates {name : List Char} {candidate : Candidate}
    (h : candidate ∈ candidates .standard name) : IsTail candidate.value.toList := by
  unfold candidates at h
  split at h
  · obtain ⟨field, hfield, rfl⟩ := List.mem_map.mp h
    have hsortable : isSortable (SortOrder.mk field .desc).field = true := by
      simpa [isSortable] using hfield
    obtain ⟨hsolid, hstart, _⟩ := sortOrder?_sortValue hsortable
    exact isTail_of_isValueStart hsolid hstart
  · cases hlookup : Schema.standard.lookup name with
    | none =>
      rw [hlookup] at h
      cases h
    | some field =>
      rw [hlookup, Option.map_some, Option.getD_some, fieldCandidates] at h
      split at h
      · obtain ⟨value, hvalue, rfl⟩ := List.mem_map.mp h
        obtain ⟨hsolid, hstart⟩ := isSolid_of_mem_values (mem_of_lookup hlookup) hvalue
        exact isTail_of_isValueStart hsolid hstart
      · obtain ⟨item, hitem, rfl⟩ := List.mem_map.mp h
        exact isTail_of_mem_dayExpressions (List.mem_cons_of_mem _ (List.mem_map_of_mem hitem))
      · cases h
      · cases h

section

variable {schema : Schema} {word : List Char} {filter : FilterInProgress} {facets : Option Facets}
  {suggestions : List Suggestion} {suggestion : Suggestion}

/-- A candidate is written behind what has been typed, after its operator if none has been. -/
theorem exists_completes (candidate : Candidate)
    (hmem : candidate ∈ candidates schema filter.name) (hkind : suggestion.kind = .value)
    (hlabel : suggestion.label = candidate.label)
    (htyped : Text.lowercase filter.partialValue <+: candidate.value.toList)
    (hvalue : suggestion.value = extend filter.typed
      ((if filter.operator.isNone then candidate.operator.symbol else "") ++ candidate.value)) :
    ∃ op value, Completes schema filter suggestion op value ∧
      Extends filter op value suggestion.value := by
  refine ⟨_, _, .value candidate hmem hkind hlabel htyped, ?_⟩
  unfold Extends
  rw [hvalue]
  cases filter.operator with
  | none => exact Or.inr ⟨rfl, rfl⟩
  | some op => exact Or.inl ⟨rfl, by simp⟩

/-- An operator is written behind a name. -/
theorem exists_completes_operatorStub (op : Operator) (description : String) (score : Score)
    (hnone : filter.operator = none) (hempty : filter.partialValue = []) :
    ∃ found value, Completes schema filter (operatorStub filter op.symbol description score)
        found value ∧
      Extends filter found value (operatorStub filter op.symbol description score).value :=
  ⟨op, "", .operator op rfl rfl hnone hempty, Or.inr ⟨hnone, by simp [operatorStub]⟩⟩

/-- Every suggestion for a filter is written behind what has been typed of it. -/
theorem completes_of_mem_valueSuggestions (hfilter : FilterInProgress.read? word = some filter)
    (hsome : valueSuggestions? schema filter facets = some suggestions)
    (h : suggestion ∈ suggestions) :
    ∃ op value, Completes schema filter suggestion op value ∧
      Extends filter op value suggestion.value := by
  rcases valueSuggestions_cases hfilter hsome with ⟨hsort, rfl⟩ | ⟨field, hon, hcases⟩
  · have hcandidates : candidates schema filter.name =
        sortableFields.map fun field => ⟨field, field, .eq⟩ := if_pos hsort
    obtain ⟨name, hname, _, rfl⟩ := exists_of_mem_falling h
    obtain ⟨hsortable, htyped⟩ := mem_startingWith.mp hname
    refine exists_completes ⟨name, name, .eq⟩ ?_ rfl rfl htyped ?_
    · rw [hcandidates]
      exact List.mem_map_of_mem hsortable
    · simp [Operator.symbol]
  · have hcandidates : candidates schema filter.name = fieldCandidates field := by
      simp [candidates, hon.2.1, hon.2.2]
    rcases hcases with ⟨htype, rfl⟩ | ⟨htype, rfl⟩ | ⟨_, rfl⟩ | ⟨_, rfl⟩
    · unfold enumValues at h
      obtain ⟨value, hvalue, _, rfl⟩ := exists_of_mem_falling h
      obtain ⟨hallowed, htyped⟩ := mem_startingWith.mp hvalue
      refine exists_completes ⟨value, value, .eq⟩ ?_ rfl rfl htyped ?_
      · rw [hcandidates, fieldCandidates, htype]
        exact List.mem_map_of_mem hallowed
      · simp [Operator.symbol]
    · rcases dateValues_cases h with ⟨item, hitem, htyped, hkind, hlabel, hvalue⟩ |
        ⟨hnone, hempty, op, _, description, score, rfl⟩
      · refine exists_completes ⟨item.1, item.2, .gt⟩ ?_ hkind hlabel htyped hvalue
        rw [hcandidates, fieldCandidates, htype]
        exact List.mem_map_of_mem hitem
      · exact exists_completes_operatorStub op description score hnone hempty
    · unfold numberStubs at h
      split at h
      · next htyped =>
        obtain ⟨⟨op, description⟩, _, score, rfl⟩ := exists_of_mem_falling h
        simp only [Bool.and_eq_true, Option.isNone_iff_eq_none, List.isEmpty_iff] at htyped
        exact exists_completes_operatorStub op description score htyped.1 htyped.2
      · cases h
    · cases h

/-- A filter that denotes something has suggestions of its own, and no others are made. -/
theorem IsFilterOf.valueSuggestions?_eq {subject : Schema.Subject}
    (h : IsFilterOf schema word filter subject) (query : String) :
    valueSuggestions? schema filter facets =
      some (wordSuggestions schema query word facets) := by
  rcases wordSuggestions_cases schema query word facets with ⟨other, hother, hsome⟩ | ⟨hnone, _⟩
  · cases h.1.symm.trans hother
    exact hsome
  · have hresolve := h.2
    rw [hnone filter h.1] at hresolve
    cases hresolve

end

/-- A query with a word under the cursor is not blank. -/
theorem exists_solid_of_wordBefore_ne_nil {text : List Char} {cursor : Nat}
    (h : wordBefore text cursor ≠ []) : ∃ c ∈ text, Text.isBlank c = false := by
  by_contra hnone
  refine h (wordBefore_of_blank (fun c hc => ?_) cursor)
  by_contra hc'
  exact hnone ⟨c, hc, by simpa using hc'⟩

/-- The word under the cursor is a filter that is being typed if and only if its first token is
a filter, and then the two agree.  Every suggestion for it that is no recent query is one token
from its start to its end: this filter with another value, which starts with the typed one in
lower case, or with an operator where nothing has been typed behind the name. -/
theorem suggest_keeps_filter (query : String) (cursor : Nat) (history : List String)
    (saved : List SavedSearch) (facets : Option Facets) :
    let word := wordBefore query.toList cursor
    let first := (Schema.standard.tokenize (String.ofList word)).head?
    ((∃ filter subject, IsFilterOf .standard word filter subject) ↔
      ∃ token, first = some token ∧ token.isFilter = true) ∧
    ∀ filter subject, IsFilterOf .standard word filter subject →
      ∃ token, first = some token ∧ Agrees filter subject token ∧
        ∀ suggestion ∈ suggest .standard query cursor history saved facets,
          suggestion.kind ≠ .history →
          ∃ op value, Completes .standard filter suggestion op value ∧
            Schema.standard.tokenize suggestion.value =
              [{ token with
                operator := some op
                value := value
                raw := suggestion.value
                startIndex := 0
                endIndex := suggestion.value.utf8ByteSize }] := by
  intro word first
  refine ⟨isFilterOf_iff fun c => isSolid_of_mem_wordBefore, fun filter subject hfilter => ?_⟩
  obtain ⟨token, htoken, _, hagrees⟩ := hfilter.exists_token
  refine ⟨token, htoken, hagrees, fun suggestion hmem hkind => ?_⟩
  have hword : word ≠ [] := by
    intro hnil
    have hread := hfilter.1
    rw [hnil] at hread
    cases hread
  have hmem := mem_wordSuggestions_of_mem_suggest (exists_solid_of_wordBefore_ne_nil hword) hmem
    hkind
  obtain ⟨op, value, hcompletes, htext⟩ :=
    completes_of_mem_valueSuggestions hfilter.1 (hfilter.valueSuggestions?_eq query) hmem
  have htail : IsTail value.toList := by
    cases hcompletes with
    | value candidate hcandidate => exact isTail_of_mem_candidates hcandidate
    | operator => exact isTail_nil
  exact ⟨op, value, hcompletes, tokenize_of_extends hfilter htoken htext htail⟩

/-- A date behind a dash, in capitals and without an operator: the shortcut means the time
since then. -/
theorem suggest_keeps_filter_negated_date :
    let query := "panic -OPENED:9"
    let word := wordBefore query.toList 15
    let filter : FilterInProgress :=
      ⟨"OPENED".toList, none, "9".toList, "-OPENED:".toList⟩
    let suggestion : Suggestion :=
      { kind := .value, label := "Last 90 days", value := "-OPENED:>90d", score := 50
        category := some "Values" }
    let found := suggest .standard query 15 ["-OPENED:9 crash"] [] none
    (IsFilterOf .standard word filter (.field "first_seen") ∧ suggestion ∈ found ∧
      suggestion.kind ≠ .history) ∧
    ∃ token, (Schema.standard.tokenize (String.ofList word)).head? = some token ∧
      Agrees filter (.field "first_seen") token ∧
      ∃ op value, Completes .standard filter suggestion op value ∧
        Schema.standard.tokenize suggestion.value =
          [{ token with
            operator := some op
            value := value
            raw := suggestion.value
            startIndex := 0
            endIndex := suggestion.value.utf8ByteSize }] := by
  intro query word filter suggestion found
  have hfilter : IsFilterOf .standard word filter (.field "first_seen") :=
    ⟨by decide +kernel, by decide +kernel⟩
  have hmem : suggestion ∈ found := by decide +kernel
  obtain ⟨_, hkeeps⟩ := suggest_keeps_filter query 15 ["-OPENED:9 crash"] [] none
  obtain ⟨token, htoken, hagrees, hall⟩ := hkeeps filter _ hfilter
  exact ⟨⟨hfilter, hmem, by decide⟩, token, htoken, hagrees, hall suggestion hmem (by decide)⟩

end Completion

end IssueSearch
