import IssueSearch.Proofs.Canonical.Filter
import IssueSearch.Proofs.Query.Effect
import IssueSearch.Proofs.Token.Ending

/-!
# Queries of one filter

A query that is one filter on a field is rejected if the field does not allow the operator,
and else if it does not accept the value; while the value is empty, nothing is wrong.

* `IsFilterText`: a text that is one filter, with the operator and the value that it is
  read with;
* `IsTail`, `filterReading_of_isTail`: the values that such a text can end with;
* `causes_of_isFilterText`, `errors_of_isFilterText_sort`: why the query is rejected, if it
  is;
* `errors_of_isFilterText_nil`: a filter without a value is accepted;
* `Field.Takes`, `causes_of_takes`: the values that a field takes.
-/

namespace IssueSearch

open Text (isSolid)
open Time (Instant)

/-! ## Filters as texts -/

/-- The text is a head that names the subject, the symbol of an operator, and a value. -/
def IsFilterText (schema : Schema) (text : List Char) (subject : Schema.Subject)
    (op : Operator) (value : List Char) : Prop :=
  ∃ (head : FilterHead) (source : List Char), isName head.name = true ∧
    schema.resolve? head.name = some subject ∧
    Operator.ofSymbol? (Operator.leadingSymbol source) = some op ∧
    text = head.raw ++ (Operator.leadingSymbol source ++ value)

/-- The value has no blanks, and it does not start with a quote or like an operator. -/
def IsTail (value : List Char) : Prop :=
  (∀ c ∈ value, isSolid c = true) ∧ ∀ c ∈ value.head?, c ∉ ['>', '<', '!', '=', '"']

theorem isTail_nil : IsTail [] := by
  simp [IsTail]

/-- The symbol of an operator is found by itself. -/
theorem leadingSymbol_self (op : Operator) :
    Operator.leadingSymbol op.symbol.toList = op.symbol.toList := by
  cases op <;> rfl

/-- What starts as a value is one. -/
theorem isTail_of_isValueStart {value : List Char} (hsolid : ∀ c ∈ value, isSolid c = true)
    (hstart : IsValueStart value) : IsTail value := by
  obtain ⟨c, hc, hmem⟩ := hstart
  refine ⟨hsolid, fun d hd => ?_⟩
  cases Option.mem_unique hc hd
  exact hmem

/-- A name with a value behind it is a filter, after a dash or without one. -/
theorem isFilterText_named {dash name : String} (hdash : dash = "" ∨ dash = "-")
    (hname : isName name.toList = true) {subject : Schema.Subject}
    (hresolve : Schema.standard.resolve? name.toList = some subject) (op : Operator)
    (value : String) :
    IsFilterText .standard (dash ++ name ++ ":" ++ (op.symbol ++ value)).toList subject op
      value.toList := by
  refine ⟨⟨dash = "-", name.toList⟩, op.symbol.toList, hname, hresolve, ?_, ?_⟩
  · rw [leadingSymbol_self, Operator.ofSymbol?_symbol]
  · rw [leadingSymbol_self]
    rcases hdash with rfl | rfl <;> simp [FilterHead.raw]

/-! ## Errors -/

section

variable {schema : Schema} {subject : Schema.Subject} {op : Operator} {value : List Char}

/-- A filter whose body is an operator and a value ends with the value. -/
theorem filterReading_of_isTail (head : FilterHead) (subject : Schema.Subject)
    {source value : List Char} {op : Operator}
    (hop : Operator.ofSymbol? (Operator.leadingSymbol source) = some op) (hvalue : IsTail value) :
    filterReading head subject (Operator.leadingSymbol source ++ value) =
      { lexeme := {
          kind := subject.kind, field := some subject.name, operator := some op, value,
          negated := head.negated }
        raw := head.raw ++ (Operator.leadingSymbol source ++ value)
        rest := [] } := by
  obtain ⟨hsolid, hstart⟩ := hvalue
  have hsymbol : Operator.leadingSymbol (Operator.leadingSymbol source ++ value) =
      Operator.leadingSymbol source :=
    leadingSymbol_append source fun c hc =>
      Or.inr fun hmem => hstart c hc (List.mem_append_left ['"'] hmem)
  have hread : readValue value = ⟨value, value, []⟩ := by
    have hend := readValue_of_solid hsolid (fun hquote => hstart _ hquote (by simp))
      Text.isSeam_nil
    rwa [List.append_nil] at hend
  simp [filterReading, hsymbol, hread, hop]

/-- A text that is one filter is read as this filter. -/
theorem IsFilterText.exists_reading {text : List Char}
    (h : IsFilterText schema text subject op value) (hvalue : IsTail value) :
    ∃ reading, readLexeme? schema text = some reading ∧ reading.rest = [] ∧
      reading.lexeme.kind = subject.kind ∧ reading.lexeme.field = some subject.name ∧
      reading.lexeme.operator = some op ∧ reading.lexeme.value = value := by
  obtain ⟨head, source, hname, hresolve, hop, rfl⟩ := h
  refine ⟨_, readLexeme?_head hname hresolve _, ?_⟩
  rw [filterReading_of_isTail head subject hop hvalue]
  exact ⟨rfl, rfl, rfl, rfl, rfl⟩

/-- A query that is read as one lexeme is rejected for the cause of this lexeme. -/
theorem causes_of_readLexeme? (now : Instant) {query : String} {reading : Reading}
    (hread : readLexeme? schema query.toList = some reading) (hrest : reading.rest = []) :
    (schema.parse now query).errors.map (·.cause) =
      (reading.effect schema now).cause?.toList := by
  obtain ⟨_, _, _, hcauses⟩ := parse_eq_outcome schema now query
  rw [hcauses, outcome_of_readLexeme? hread, hrest, outcome_nil]
  cases reading.effect schema now <;> rfl

/-- A filter on a field is rejected for the cause of its clause, whether it is negated or
not. -/
theorem cause?_fieldEffect (now : Instant) (token : Token) (field : Field) :
    (token.fieldEffect field now).cause? = (Effect.ofClause (field.clause? token now)).cause? := by
  unfold Token.fieldEffect
  split
  · next clause hclause =>
    rw [hclause]
    cases token.isNegation <;> cases clause <;> rfl
  · next hclause =>
    rw [hclause]
    rfl
  · next cause hclause =>
    rw [hclause]
    rfl

/-- A query that is one filter on a field is rejected for its operator, unless the value is
empty, or else for its value. -/
theorem causes_of_isFilterText (now : Instant) {field : Field} {query : String}
    (hfield : field ∈ Schema.standard.fields)
    (h : IsFilterText .standard query.toList (.field field.name) op value)
    (hvalue : IsTail value) :
    (Schema.standard.parse now query).errors.map (·.cause) =
      if value = [] then []
      else if field.allows op then
        (Effect.ofClause (field.typedClause op (String.ofList value) now)).cause?.toList
      else [.unsupportedOperator field.name op.name] := by
  obtain ⟨reading, hread, hrest, hkind, hname, hop, hsame⟩ := h.exists_reading hvalue
  obtain ⟨_, _, hlookup⟩ := standard_names field hfield
  have heffect : reading.effect .standard now = (reading.token 0).fieldEffect field now := by
    simp [Reading.effect, Token.effect, Reading.token, hkind, hname, Schema.Subject.kind,
      Schema.Subject.name, hlookup]
  have hoperator : (reading.token 0).operator = some op := hop
  have hwritten : (reading.token 0).value = String.ofList value := by
    rw [← hsame]
    rfl
  have htrim : Text.trim (reading.token 0).value.toList = value := by
    rw [hwritten, String.toList_ofList, Text.trim_of_solid hvalue.1]
  rw [causes_of_readLexeme? now hread hrest, heffect, cause?_fieldEffect, clause?_eq, htrim,
    hoperator, Option.getD_some]
  split
  · rfl
  · split
    · rfl
    · rfl

/-- A query that is one sort order is accepted if its value names one. -/
theorem errors_of_isFilterText_sort (now : Instant) {query : String}
    (h : IsFilterText schema query.toList .sort op value) (hvalue : IsTail value)
    {order : Option SortOrder} (horder : sortOrder? value = .ok order) :
    (schema.parse now query).errors = [] := by
  obtain ⟨reading, hread, hrest, hkind, _, _, hsame⟩ := h.exists_reading hvalue
  have heffect : reading.effect schema now = (reading.token 0).sortEffect := by
    simp [Reading.effect, Token.effect, Reading.token, hkind, Schema.Subject.kind]
  have hcauses := causes_of_readLexeme? now hread hrest
  have hwritten : (reading.token 0).value.toList = value := by
    simp [Reading.token, hsame]
  rw [heffect, Token.sortEffect, hwritten, horder] at hcauses
  cases order <;> simpa [Effect.cause?] using hcauses

end

/-- A filter that is still without a value is accepted. -/
theorem errors_of_isFilterText_nil (now : Instant) {query : String} {subject : Schema.Subject}
    {op : Operator} (h : IsFilterText .standard query.toList subject op []) :
    (Schema.standard.parse now query).errors = [] := by
  cases subject with
  | sort => exact errors_of_isFilterText_sort now h isTail_nil rfl
  | field name =>
    obtain ⟨head, _, _, hresolve, _⟩ := id h
    obtain ⟨_, field, hlookup, rfl⟩ := resolve?_eq_field_iff.mp hresolve
    simpa using causes_of_isFilterText now (mem_of_lookup hlookup) h isTail_nil

/-- The field takes the value: it has no blanks, and with every operator it makes a clause. -/
structure Field.Takes (field : Field) (now : Instant) (value : String) : Prop where
  ne_empty : value ≠ ""
  isTail : IsTail value.toList
  clause : ∀ op, ∃ found, field.typedClause op value now = .ok found

/-- A field takes the values that it allows. -/
theorem takes_enum (now : Instant) {field : Field} (hfield : field ∈ Schema.standard.fields)
    (htype : field.type = .enum) {value : String} (hvalue : value ∈ field.values) :
    field.Takes now value := by
  obtain ⟨hsolid, hstart⟩ := isSolid_of_mem_values hfield hvalue
  refine ⟨?_, isTail_of_isValueStart hsolid hstart, fun op =>
    ⟨some (.enum field.name value), typedClause_enum now hfield htype hvalue op⟩⟩
  rintro rfl
  obtain ⟨c, hc, _⟩ := hstart
  cases hc

/-- A query that is one filter with a value that its field takes can only be rejected for
the operator. -/
theorem causes_of_takes {now : Instant} {query : String} {field : Field} {op : Operator}
    {value : String} (hfield : field ∈ Schema.standard.fields) (hvalue : field.Takes now value)
    (h : IsFilterText .standard query.toList (.field field.name) op value.toList) :
    (Schema.standard.parse now query).errors.map (·.cause) =
      if field.allows op then [] else [.unsupportedOperator field.name op.name] := by
  obtain ⟨hne, htail, hclause⟩ := hvalue
  obtain ⟨found, hfound⟩ := hclause op
  have haccepted : (Effect.ofClause (.ok found)).cause? = none := by
    cases found with
    | none => rfl
    | some clause => cases clause <;> rfl
  rw [causes_of_isFilterText now hfield h htail, if_neg (by simpa using hne),
    String.ofList_toList, hfound, haccepted]
  rfl

end IssueSearch
