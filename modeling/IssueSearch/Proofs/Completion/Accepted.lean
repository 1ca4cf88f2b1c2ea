import IssueSearch.Proofs.Completion.Offers
import IssueSearch.Proofs.Query.Single
import IssueSearch.Proofs.Time.Offset

/-!
# Offers are accepted

A suggestion is a query of one filter.  It is accepted unless an operator has been typed
that the field does not allow: then its values are offered all the same, and every one of
them is rejected for this operator.

* `Refuses`: an operator in the typed word that its field does not allow;
* `isRefusedAs_of_offers`: every offer is rejected for this operator or not at all;
* `suggest_accepted_iff`: when a suggestion is accepted.
-/

namespace IssueSearch

open Time (Instant)

namespace Completion

/-! ## What is behind a typed filter -/

/-- What has been typed of a filter is its head and an operator, if there is one. -/
theorem exists_head_of_read? {word : List Char} {filter : FilterInProgress}
    (h : FilterInProgress.read? word = some filter) :
    ∃ (head : FilterHead) (source : List Char), isName head.name = true ∧
      word = head.raw ++ source ∧ filter.name = head.name ∧
      filter.typed = head.raw ++ Operator.leadingSymbol source ∧
      (filter.operator = none → Operator.leadingSymbol source = []) ∧
      Operator.ofSymbol? (Operator.leadingSymbol source) = some (filter.operator.getD .eq) := by
  obtain ⟨⟨head, source⟩, hread, rfl⟩ := Option.map_eq_some_iff.mp h
  obtain ⟨hname, hword⟩ := (read?_eq_some_iff _ _ _).mp hread
  refine ⟨head, source, hname, hword, rfl, rfl, ?_⟩
  obtain ⟨op, hop⟩ := Option.isSome_iff_exists.mp (Operator.ofSymbol?_leadingSymbol_isSome source)
  dsimp only
  by_cases hempty : Operator.leadingSymbol source = []
  · rw [hempty]
    exact ⟨fun _ => rfl, rfl⟩
  · rw [if_neg (by simpa using hempty), hop]
    exact ⟨nofun, rfl⟩

section

variable {schema : Schema} {word : List Char} {filter : FilterInProgress}
  {subject : Schema.Subject} (hfilter : FilterInProgress.read? word = some filter)
  (hresolve : schema.resolve? filter.name = some subject)
include hfilter hresolve

/-- A value behind what has been typed is compared by the typed operator. -/
theorem isFilterText_extend (value : String) :
    IsFilterText schema (extend filter.typed value).toList subject (filter.operator.getD .eq)
      value.toList := by
  obtain ⟨head, source, hname, _, hsame, htyped, _, hop⟩ := exists_head_of_read? hfilter
  rw [hsame] at hresolve
  exact ⟨head, source, hname, hresolve, hop, by simp [extend, htyped]⟩

/-- A value behind an operator is compared by this operator, if none has been typed. -/
theorem isFilterText_extend_symbol (hnone : filter.operator = none) (op : Operator)
    (value : String) :
    IsFilterText schema (extend filter.typed (op.symbol ++ value)).toList subject op
      value.toList := by
  obtain ⟨head, source, hname, _, hsame, htyped, hsymbol, _⟩ := exists_head_of_read? hfilter
  rw [hsame] at hresolve
  refine ⟨head, op.symbol.toList, hname, hresolve, ?_, ?_⟩
  · rw [leadingSymbol_self, Operator.ofSymbol?_symbol]
  · rw [leadingSymbol_self]
    simp [extend, htyped, hsymbol hnone]

end

/-! ## Refused operators -/

/-- The word is a filter on the field with an operator that the field does not allow. -/
def Refuses (schema : Schema) (word : List Char) (field : Field) (op : Operator) : Prop :=
  ∃ filter, IsFilterOn schema word filter field ∧ filter.operator = some op ∧
    field.allows op = false

/-- A query is rejected for the operator that has been typed and is refused, and for
nothing else. -/
def IsRefusedAs (schema : Schema) (word : List Char) (parsed : Query) : Prop :=
  (parsed.errors = [] ↔ ∀ field op, ¬Refuses schema word field op) ∧
    ∀ field op, Refuses schema word field op →
      parsed.errors.map (·.cause) = [.unsupportedOperator field.name op.name]

/-- A word is a filter on one field. -/
theorem IsFilterOn.unique {schema : Schema} {word : List Char} {filter other : FilterInProgress}
    {field found : Field} (h : IsFilterOn schema word filter field)
    (hother : IsFilterOn schema word other found) : filter = other ∧ field = found := by
  have hsame := Option.some.inj (h.1.symm.trans hother.1)
  subst hsame
  exact ⟨rfl, Option.some.inj (h.2.2.symm.trans hother.2.2)⟩

/-- What is accepted is not refused. -/
theorem isRefusedAs_of_accepted {schema : Schema} {word : List Char} {parsed : Query}
    (herrors : parsed.errors = []) (hword : ∀ field op, ¬Refuses schema word field op) :
    IsRefusedAs schema word parsed :=
  ⟨⟨fun _ => hword, fun _ => herrors⟩, fun field op h => absurd h (hword field op)⟩

/-- Every field of the table may be compared for equality. -/
theorem standard_allows_eq : ∀ field ∈ Schema.standard.fields, field.allows .eq = true := by
  decide

/-- A date may be compared with a time before it. -/
theorem standard_allows_gt : ∀ field ∈ Schema.standard.fields, field.type = .date →
    field.allows .gt = true := by
  decide

/-- Operators that are refused have been typed. -/
theorem not_refuses_of_operator {schema : Schema} {word : List Char}
    {filter : FilterInProgress} {field : Field} (h : IsFilterOn schema word filter field)
    (hallows : ∀ op, filter.operator = some op → field.allows op = true) (found : Field)
    (op : Operator) : ¬Refuses schema word found op := by
  rintro ⟨other, hother, hop, hrefused⟩
  obtain ⟨rfl, rfl⟩ := h.unique hother
  rw [hallows op hop] at hrefused
  cases hrefused

/-- A value that its field takes is refused with the operator in front of it. -/
theorem isRefusedAs_extend {now : Instant} {word : List Char} {filter : FilterInProgress}
    {field : Field} (h : IsFilterOn .standard word filter field) {value : String}
    (hvalue : field.Takes now value) :
    IsRefusedAs .standard word (Schema.standard.parse now (extend filter.typed value)) := by
  have hfield := mem_of_lookup h.2.2
  have hcauses := causes_of_takes hfield hvalue (isFilterText_extend h.1 h.resolve? value)
  cases hallows : field.allows (filter.operator.getD .eq) with
  | true =>
    rw [if_pos hallows] at hcauses
    refine isRefusedAs_of_accepted (by simpa using hcauses) (not_refuses_of_operator h ?_)
    intro op hop
    rwa [hop] at hallows
  | false =>
    rw [if_neg (by simp [hallows])] at hcauses
    -- without an operator the value would be compared for equality, which is allowed
    cases hop : filter.operator with
    | none =>
      rw [hop, Option.getD_none, standard_allows_eq field hfield] at hallows
      cases hallows
    | some op =>
      rw [hop, Option.getD_some] at hallows hcauses
      have hrefuses : Refuses .standard word field op := ⟨filter, h, hop, hallows⟩
      refine ⟨⟨fun herrors => ?_, fun hnone => absurd hrefuses (hnone field op)⟩, ?_⟩
      · rw [herrors] at hcauses
        cases hcauses
      · rintro found other ⟨otherFilter, hother, hotherOp, _⟩
        obtain ⟨rfl, rfl⟩ := h.unique hother
        cases hop.symm.trans hotherOp
        exact hcauses

/-! ## Offers one by one -/

/-- The name of a field or of the sort order is accepted without a value. -/
theorem errors_name (now : Instant) {dash name : String} (hdash : dash = "" ∨ dash = "-")
    (hname : name = sortKeyword ∨ ∃ field ∈ Schema.standard.fields, field.name = name) :
    (Schema.standard.parse now (dash ++ name ++ ":")).errors = [] := by
  obtain ⟨subject, hname, hresolve⟩ : ∃ subject, isName name.toList = true ∧
      Schema.standard.resolve? name.toList = some subject := by
    rcases hname with rfl | ⟨field, hfield, rfl⟩
    · exact ⟨.sort, by decide⟩
    · obtain ⟨hname, hresolve, _⟩ := standard_names field hfield
      exact ⟨_, hname, hresolve⟩
  have htext := isFilterText_named hdash hname hresolve .eq ""
  have hnothing : dash ++ name ++ ":" ++ (Operator.eq.symbol ++ "") = dash ++ name ++ ":" := by
    simp [Operator.symbol]
  rw [hnothing] at htext
  exact errors_of_isFilterText_nil now htext

/-- The expressions for some days before now that are offered. -/
def dayExpressions : List String :=
  "1d" :: dateShortcuts.map Prod.fst

/-- An instant with its day is accepted with every operator. -/
theorem moment?_of_hasDay {now moment : Instant} {value : List Char}
    (hresolve : Time.resolve? now value = some moment) (hday : moment.HasDay) (op : Operator) :
    Field.moment? op value now = some moment := by
  obtain ⟨_, next, hnext, hyear⟩ := hday
  simp [Field.moment?, hresolve, hnext, hyear, Option.filter]

/-- The fixed filters are filters on fields of the table: without a value, with an allowed
one, or with a number of days. -/
theorem fixed_cases {filter : String} (h : filter ∈ fixedFilters) :
    ∃ field ∈ Schema.standard.fields, ∃ op value,
      filter = "" ++ field.name ++ ":" ++ (op.symbol ++ value) ∧ field.allows op = true ∧
        (value = "" ∨ (field.type = .enum ∧ value ∈ field.values) ∨
          (field.type = .date ∧ value ∈ dayExpressions)) := by
  simp only [fixedFilters, List.mem_cons, List.not_mem_nil, or_false] at h
  rcases h with rfl | rfl | rfl | rfl | rfl
  · exact ⟨Schema.standard.fields[0], by decide, .eq, "", by decide⟩
  · exact ⟨Schema.standard.fields[1], by decide, .eq, "", by decide⟩
  · exact ⟨Schema.standard.fields[0], by decide, .eq, "unresolved", by decide⟩
  · exact ⟨Schema.standard.fields[1], by decide, .eq, "error", by decide⟩
  · exact ⟨Schema.standard.fields[5], by decide, .gt, "1d", by decide⟩

/-- An operator to go on with is accepted without a value. -/
theorem errors_comparison (now : Instant) {word : List Char} {filter : FilterInProgress}
    {field : Field} (h : IsFilterOn .standard word filter field)
    (hnone : filter.operator = none) (op : Operator) :
    (Schema.standard.parse now (extend filter.typed op.symbol)).errors = [] := by
  have htext := isFilterText_extend_symbol h.1 h.resolve? hnone op ""
  rw [String.append_empty] at htext
  exact errors_of_isFilterText_nil now htext

/-- An order is accepted, whatever operator stands in front of it. -/
theorem errors_sortable (now : Instant) {word : List Char} {filter : FilterInProgress}
    {field : String} (hfilter : FilterInProgress.read? word = some filter)
    (hsort : isSortKeyword filter.name = true) (hfield : field ∈ sortableFields) :
    (Schema.standard.parse now (extend filter.typed field)).errors = [] := by
  have hresolve : Schema.standard.resolve? filter.name = some .sort := by
    simp [Schema.resolve?, hsort]
  have hsortable : isSortable (SortOrder.mk field .desc).field = true := by
    simpa [isSortable] using hfield
  obtain ⟨hsolid, hstart, horder⟩ := sortOrder?_sortValue hsortable
  exact errors_of_isFilterText_sort now (isFilterText_extend hfilter hresolve field)
    (isTail_of_isValueStart hsolid hstart) horder

/-- A number of days is a word that does not start like an operator. -/
theorem isTail_of_mem_dayExpressions {value : String} (h : value ∈ dayExpressions) :
    IsTail value.toList := by
  simp only [dayExpressions, dateShortcuts, List.map_cons, List.map_nil, List.mem_cons,
    List.not_mem_nil, or_false] at h
  rcases h with rfl | rfl | rfl | rfl | rfl | rfl <;>
    exact isTail_of_isValueStart (List.all_eq_true.mp (by decide))
      (isValueStart_cons _ (by decide))

section

variable {now : Instant} (hnow : 2 ≤ now.year ∧ now.year ≤ 9998)
include hnow

/-- A date takes some days before now. -/
theorem takes_days {field : Field} (htype : field.type = .date) {value : String}
    (hvalue : value ∈ dayExpressions) : field.Takes now value := by
  have htail := isTail_of_mem_dayExpressions hvalue
  simp only [dayExpressions, dateShortcuts, List.map_cons, List.map_nil, List.mem_cons,
    List.not_mem_nil, or_false] at hvalue
  have hne : value ≠ "" := by
    rcases hvalue with rfl | rfl | rfl | rfl | rfl | rfl <;> decide
  have hresolve : ∃ moment, Time.resolve? now value.toList = some moment ∧ moment.HasDay := by
    rcases hvalue with rfl | rfl | rfl | rfl | rfl | rfl
    · exact Time.resolve?_days hnow 1 (by decide) (by decide) (by omega)
    · exact Time.resolve?_today hnow
    · exact Time.resolve?_days hnow 7 (by decide) (by decide) (by omega)
    · exact Time.resolve?_days hnow 14 (by decide) (by decide) (by omega)
    · exact Time.resolve?_days hnow 30 (by decide) (by decide) (by omega)
    · exact Time.resolve?_days hnow 90 (by decide) (by decide) (by omega)
  obtain ⟨moment, hmoment, hday⟩ := hresolve
  refine ⟨hne, htail, fun op => ?_⟩
  rw [Field.typedClause, htype]
  dsimp only
  rw [moment?_of_hasDay hmoment hday]
  exact ⟨_, rfl⟩

/-- The fixed filters are accepted. -/
theorem errors_fixed {filter : String} (h : filter ∈ fixedFilters) :
    (Schema.standard.parse now filter).errors = [] := by
  obtain ⟨field, hfield, op, value, rfl, hallows, hcases⟩ := fixed_cases h
  obtain ⟨hname, hresolve, _⟩ := standard_names field hfield
  have htext := isFilterText_named (Or.inl rfl) hname hresolve op value
  have htakes : field.Takes now value →
      (Schema.standard.parse now ("" ++ field.name ++ ":" ++ (op.symbol ++ value))).errors =
        [] := by
    intro hvalue
    have hcauses := causes_of_takes hfield hvalue htext
    rw [if_pos hallows] at hcauses
    simpa using hcauses
  rcases hcases with rfl | ⟨htype, hvalue⟩ | ⟨htype, hvalue⟩
  · exact errors_of_isFilterText_nil now htext
  · exact htakes (takes_enum now hfield htype hvalue)
  · exact htakes (takes_days hnow htype hvalue)

/-- A time before now is refused with the operator in front of it, and accepted with the
one that is implied. -/
theorem isRefusedAs_shortcut {word : List Char} {filter : FilterInProgress} {field : Field}
    (h : IsFilterOn .standard word filter field) (htype : field.type = .date) {value : String}
    (hvalue : value ∈ dateShortcuts.map Prod.fst) :
    IsRefusedAs .standard word (Schema.standard.parse now
      (extend filter.typed (impliedSymbol filter ++ value))) := by
  have htakes : field.Takes now value := takes_days hnow htype (List.mem_cons_of_mem _ hvalue)
  unfold impliedSymbol
  cases hop : filter.operator with
  | none =>
    have hfield := mem_of_lookup h.2.2
    have hcauses := causes_of_takes hfield htakes
      (isFilterText_extend_symbol h.1 h.resolve? hop .gt value)
    rw [if_pos (standard_allows_gt field hfield htype), List.map_eq_nil_iff] at hcauses
    refine isRefusedAs_of_accepted hcauses (not_refuses_of_operator h ?_)
    intro op hsome
    cases hop.symm.trans hsome
  | some op =>
    rw [if_neg (by simp), String.empty_append]
    exact isRefusedAs_extend h htakes

/-- Every offer is refused with the typed operator, or it is accepted. -/
theorem isRefusedAs_of_offers {word : List Char} {value : String}
    (h : Offers .standard word value) :
    IsRefusedAs .standard word (Schema.standard.parse now value) := by
  cases h with
  | name hdash hname hword =>
    exact isRefusedAs_of_accepted (errors_name now hdash hname)
      fun field op ⟨filter, hfilter, _⟩ => hword filter field hfilter
  | fixed hvalue hword =>
    exact isRefusedAs_of_accepted (errors_fixed hnow hvalue)
      fun field op ⟨filter, hfilter, _⟩ => hword filter field hfilter
  | listed hfilter htype hvalue =>
    exact isRefusedAs_extend hfilter (takes_enum now (mem_of_lookup hfilter.2.2) htype hvalue)
  | shortcut hfilter htype hvalue => exact isRefusedAs_shortcut hnow hfilter htype hvalue
  | comparison op hfilter hnone =>
    refine isRefusedAs_of_accepted (errors_comparison now hfilter hnone op)
      (not_refuses_of_operator hfilter ?_)
    intro op hop
    cases hnone.symm.trans hop
  | sortable hfilter hsort hfield =>
    refine isRefusedAs_of_accepted (errors_sortable now hfilter hsort hfield) ?_
    rintro field op ⟨filter, ⟨hother, hnone, _⟩, _⟩
    cases hfilter.symm.trans hother
    rw [hsort] at hnone
    cases hnone

end

/-! ## Suggestions -/

/-- A suggestion that is no recent query and no saved search is accepted if and only if the
word under the cursor holds no operator that its field does not allow.  Otherwise it is
rejected for this operator alone. -/
theorem suggest_accepted_iff (now : Instant) (query : String) (cursor : Nat)
    (history : List String) (saved : List SavedSearch) (facets : Option Facets)
    (suggestion : Suggestion) (hnow : 2 ≤ now.year ∧ now.year ≤ 9998)
    (hmem : suggestion ∈ suggest .standard query cursor history saved facets)
    (hhistory : suggestion.kind ≠ .history) (hsaved : suggestion.kind ≠ .saved) :
    let word := wordBefore query.toList cursor
    let parsed := Schema.standard.parse now suggestion.value
    (parsed.errors = [] ↔ ∀ field op, ¬Refuses .standard word field op) ∧
      ∀ field op, Refuses .standard word field op →
        parsed.errors.map (·.cause) = [.unsupportedOperator field.name op.name] :=
  isRefusedAs_of_offers hnow (offers_of_mem_suggest hmem hhistory hsaved)

/-- A date behind a dash, an alias and an operator. -/
theorem suggest_accepted_iff_negated_date :
    let now : Instant := ⟨0, 0⟩
    let query := "panic -OPENED:<9"
    let suggestion : Suggestion :=
      { kind := .value, label := "Last 90 days", value := "-OPENED:<90d", score := 50
        category := some "Values" }
    let word := wordBefore query.toList 16
    let parsed := Schema.standard.parse now suggestion.value
    ((2 ≤ now.year ∧ now.year ≤ 9998) ∧
      suggestion ∈ suggest .standard query 16 ["-OPENED:<9 crash"] [] none ∧
      suggestion.kind ≠ .history ∧ suggestion.kind ≠ .saved) ∧
      (parsed.errors = [] ↔ ∀ field op, ¬Refuses .standard word field op) ∧
      ∀ field op, Refuses .standard word field op →
        parsed.errors.map (·.cause) = [.unsupportedOperator field.name op.name] := by
  intro now query suggestion word parsed
  have hnow : 2 ≤ now.year ∧ now.year ≤ 9998 := by decide
  have hmem : suggestion ∈ suggest .standard query 16 ["-OPENED:<9 crash"] [] none := by
    decide +kernel
  exact ⟨⟨hnow, hmem, by decide, by decide⟩,
    suggest_accepted_iff now query 16 ["-OPENED:<9 crash"] [] none suggestion hnow hmem
      (by decide) (by decide)⟩

/-- A status behind an operator that it cannot be compared by is suggested, and rejected. -/
theorem exists_rejected_suggestion :
    let suggestion : Suggestion :=
      { kind := .value, label := "resolved", value := "is:>resolved", score := 50
        category := some "Values" }
    (2 ≤ (⟨0, 0⟩ : Instant).year ∧ (⟨0, 0⟩ : Instant).year ≤ 9998) ∧
      suggestion ∈ suggest .standard "is:>re" 6 [] [] none ∧
      (Schema.standard.parse ⟨0, 0⟩ suggestion.value).errors.map (·.cause) =
        [.unsupportedOperator "is" "gt"] := by
  decide +kernel

end Completion

end IssueSearch
