import IssueSearch.Proofs.Canonical.RoundTrip

/-!
# What a query leaves is well formed

Whatever is typed, the filters hold allowed values, bounds that are not negative, and
dates that mean the same at every time; the text is the free text, and the order is one
that results can have.

* `IsListOf`, `IsFixedDate`: the lists of values and the dates;
* `Query.IsWellFormed`: all that holds of the meaning of a query;
* `parse_isWellFormed`: it holds of every query at every time.
-/

namespace IssueSearch

open Time (Instant)

/-! ## Lists of values -/

/-- A list is absent, or it is not empty and holds values of the field with this name,
each once and in lower case. -/
def IsListOf (name : String) (values : Option (List String)) : Prop :=
  ∃ field ∈ Schema.standard.fields, field.name = name ∧ IsValueList field.values values ∧
    ∀ list ∈ values, ∀ value ∈ list, Text.lowercase value.toList = value.toList

/-- A list of allowed values is one of the field that allows them. -/
theorem IsValueList.isListOf {field : Field} (hfield : field ∈ Schema.standard.fields)
    {values : Option (List String)} (h : IsValueList field.values values) :
    IsListOf field.name values := by
  refine ⟨field, hfield, rfl, h, fun list hlist value hvalue => ?_⟩
  exact lowercase_of_mem_values hfield ((h list hlist).2.2 value hvalue)

/-! ## Dates -/

/-- A date is absent, or at every time it resolves to an instant in the years 1 to 9999
that is written in the same way. -/
def IsFixedDate (date : Option String) : Prop :=
  ∀ text ∈ date, ∀ now, ∃ moment, Time.resolve? now text.toList = some moment ∧
    moment.isRepresentable = true ∧ moment.format = text

/-- The wire form of a date does not depend on the clock. -/
theorem IsWireDate.isFixedDate {date : Option String} (h : IsWireDate date) :
    IsFixedDate date := by
  intro text htext now
  obtain ⟨moment, hmoment, rfl⟩ := h text htext
  refine ⟨moment.cut, ?_, ?_, Time.format_cut moment⟩
  · rw [Instant.format, String.toList_ofList]
    exact Time.resolve?_writeMillis now hmoment
  · rw [Time.isRepresentable_cut, hmoment]

/-! ## Queries -/

/-- What holds of the meaning of every query.  Bounds are integers of 64 bits, so they are
limited from above by their type. -/
structure Query.IsWellFormed (query : Query) : Prop where
  status : IsListOf "is" query.filters.status
  level : IsListOf "level" query.filters.level
  count : ∀ bound ∈ [query.filters.countGt, query.filters.countLt, query.filters.countGte,
    query.filters.countLte], IsAtLeast 0 bound
  /-- The open interval around 0 starts at -1. -/
  usersGt : IsAtLeast (-1) query.filters.usersGt
  usersLt : IsAtLeast 0 query.filters.usersLt
  dates : ∀ date ∈ [query.filters.firstSeenAfter, query.filters.firstSeenBefore,
    query.filters.lastSeenAfter, query.filters.lastSeenBefore], IsFixedDate date
  text : query.filters.text = if query.freeText = "" then none else some query.freeText
  sort : ∀ order ∈ query.sort, order.field ∈ sortableFields

/-- The fields of the table that have a list of values. -/
theorem exists_enum_fields :
    (∃ field ∈ Schema.standard.fields, field.name = "is" ∧ field.values = statusValues) ∧
      ∃ field ∈ Schema.standard.fields, field.name = "level" ∧ field.values = levelValues := by
  decide

/-- The text of the search is the free text, if there is any. -/
theorem text_parse (schema : Schema) (now : Instant) (query : String) :
    (schema.parse now query).filters.text =
      if (schema.parse now query).freeText = "" then none
      else some (schema.parse now query).freeText := by
  simp only [← String.isEmpty_iff]
  rfl

/-- The meaning of every query is well formed. -/
theorem parse_isWellFormed (now : Instant) (query : String) :
    (Schema.standard.parse now query).IsWellFormed := by
  obtain ⟨hslots, horder⟩ := isParsed_parse now query
  obtain ⟨⟨status, hstatus, hstatusName, hstatusValues⟩, level, hlevel, hlevelName,
    hlevelValues⟩ := exists_enum_fields
  refine ⟨?_, ?_, ?_, hslots.usersGt, hslots.usersLt, ?_, ?_, ?_⟩
  · rw [← hstatusName]
    exact IsValueList.isListOf hstatus (hstatusValues ▸ hslots.status)
  · rw [← hlevelName]
    exact IsValueList.isListOf hlevel (hlevelValues ▸ hslots.level)
  · simp only [List.forall_mem_cons, List.not_mem_nil, false_imp_iff, implies_true, and_true]
    exact ⟨hslots.countGt, hslots.countLt, hslots.countGte, hslots.countLte⟩
  · simp only [List.forall_mem_cons, List.not_mem_nil, false_imp_iff, implies_true, and_true]
    exact ⟨hslots.firstSeenAfter.isFixedDate, hslots.firstSeenBefore.isFixedDate,
      hslots.lastSeenAfter.isFixedDate, hslots.lastSeenBefore.isFixedDate⟩
  · exact text_parse Schema.standard now query
  · intro order hmem
    simpa [isSortable] using horder order hmem

end IssueSearch
