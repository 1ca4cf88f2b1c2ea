import IssueSearch.Proofs.Completion.Fields
import IssueSearch.Proofs.Text.Blank

/-!
# What completing a word offers

Apart from recent queries and saved searches, every suggestion is the name of a field, a
fixed filter, or the word itself with a value or an operator behind what has been typed
of it.

* `IsFilterOn`: the words that are a filter on a field;
* `Offers`: the filters that are offered for a word;
* `dateValues_cases`, `valueSuggestions_cases`, `wordSuggestions_cases`: what each source
  yields;
* `suggest_of_solid`: the list for a query that is not blank;
* `offers_of_mem_suggest`: every suggestion is a recent query, a saved search, or one of
  these.
-/

namespace IssueSearch.Completion

/-- The word is a filter on a field: its name is that of a field and not that of the sort
order. -/
def IsFilterOn (schema : Schema) (word : List Char) (filter : FilterInProgress)
    (field : Field) : Prop :=
  FilterInProgress.read? word = some filter ∧ isSortKeyword filter.name = false ∧
    schema.lookup filter.name = some field

/-- A filter on a field denotes this field. -/
theorem IsFilterOn.resolve? {schema : Schema} {word : List Char} {filter : FilterInProgress}
    {field : Field} (h : IsFilterOn schema word filter field) :
    schema.resolve? filter.name = some (.field field.name) := by
  simp [Schema.resolve?, h.2.1, h.2.2]

/-- The filters that are offered whatever has been typed. -/
def fixedFilters : List String :=
  ["is:", "level:", "is:unresolved", "level:error", "last_seen:>1d"]

/-- The operator in front of a date shortcut that no operator has been typed for. -/
def impliedSymbol (filter : FilterInProgress) : String :=
  if filter.operator.isNone then ">" else ""

/-- The values that are offered for a word. -/
inductive Offers (schema : Schema) (word : List Char) : String → Prop
  /-- The name of a field or of the sort order. -/
  | name {dash name : String} (hdash : dash = "" ∨ dash = "-")
      (hname : name = sortKeyword ∨ ∃ field ∈ schema.fields, field.name = name)
      (hword : ∀ filter field, ¬IsFilterOn schema word filter field) :
      Offers schema word (dash ++ name ++ ":")
  | fixed {value : String} (hvalue : value ∈ fixedFilters)
      (hword : ∀ filter field, ¬IsFilterOn schema word filter field) :
      Offers schema word value
  /-- An allowed value. -/
  | listed {filter : FilterInProgress} {field : Field} {value : String}
      (hfilter : IsFilterOn schema word filter field) (htype : field.type = .enum)
      (hvalue : value ∈ field.values) : Offers schema word (extend filter.typed value)
  /-- A time before now. -/
  | shortcut {filter : FilterInProgress} {field : Field} {value : String}
      (hfilter : IsFilterOn schema word filter field) (htype : field.type = .date)
      (hvalue : value ∈ dateShortcuts.map Prod.fst) :
      Offers schema word (extend filter.typed (impliedSymbol filter ++ value))
  /-- An operator to go on with. -/
  | comparison {filter : FilterInProgress} {field : Field} (op : Operator)
      (hfilter : IsFilterOn schema word filter field) (hnone : filter.operator = none) :
      Offers schema word (extend filter.typed op.symbol)
  /-- A field to order by. -/
  | sortable {filter : FilterInProgress} {field : String}
      (hfilter : FilterInProgress.read? word = some filter)
      (hsort : isSortKeyword filter.name = true) (hfield : field ∈ sortableFields) :
      Offers schema word (extend filter.typed field)

section

variable {schema : Schema} {query : String} {word : List Char} {facets : Option Facets}
  {suggestion : Suggestion}

/-! ## Lists of suggestions -/

/-- A suggestion of a row is made of one of its items. -/
theorem exists_of_mem_falling {α : Type} {items : List α} {top : Nat}
    {make : α → Score → Suggestion} (h : suggestion ∈ falling items top make) :
    ∃ item ∈ items, ∃ score, suggestion = make item score := by
  obtain ⟨⟨item, index⟩, hmem, rfl⟩ := List.mem_map.mp h
  exact ⟨item, List.fst_mem_of_mem_zipIdx hmem, _, rfl⟩

/-- The values that are offered are the items that start with what has been typed, in lower
case. -/
theorem mem_startingWith {α : Type} {partialValue : List Char} {text : α → String}
    {items : List α} {item : α} :
    item ∈ startingWith partialValue text items ↔
      item ∈ items ∧ Text.lowercase partialValue <+: (text item).toList := by
  rw [startingWith, List.mem_filter, List.isPrefixOf_iff_prefix]

/-- Ranking keeps the suggestions. -/
theorem mem_rank {suggestions : List Suggestion} :
    suggestion ∈ rank suggestions ↔ suggestion ∈ suggestions :=
  List.mem_mergeSort

/-! ## Sources -/

/-- The presets are fixed filters. -/
theorem mem_fixedFilters_of_mem_presets (h : suggestion ∈ presets schema query) :
    suggestion.value ∈ fixedFilters := by
  simp only [presets, List.mem_append, List.mem_ite_nil_left, List.mem_singleton] at h
  rcases h with (⟨_, rfl⟩ | ⟨_, rfl⟩) | rfl <;> simp [preset, fixedFilters]

/-- A query starts with a saved search, a recent query or a fixed filter. -/
theorem start_cases {history : List String} {saved : List SavedSearch}
    (h : suggestion ∈ startSuggestions history saved) :
    suggestion.kind = .saved ∨ suggestion.kind = .history ∨ suggestion.value ∈ fixedFilters := by
  simp only [startSuggestions, List.mem_append] at h
  rcases h with (hsaved | hhistory) | hquick
  · obtain ⟨_, _, _, rfl⟩ := exists_of_mem_falling hsaved
    exact Or.inl rfl
  · obtain ⟨_, _, _, rfl⟩ := exists_of_mem_falling hhistory
    exact Or.inr (Or.inl rfl)
  · simp only [List.mem_cons, List.not_mem_nil, or_false] at hquick
    rcases hquick with rfl | rfl <;> simp [quickStart, fixedFilters]

/-- Of a date, times before now are suggested behind what has been typed, and two operators
as long as that is the name alone. -/
theorem dateValues_cases {filter : FilterInProgress} (h : suggestion ∈ dateValues filter) :
    (∃ item ∈ dateShortcuts, Text.lowercase filter.partialValue <+: item.1.toList ∧
      suggestion.kind = .value ∧ suggestion.label = item.2 ∧
      suggestion.value = extend filter.typed (impliedSymbol filter ++ item.1)) ∨
    (filter.operator = none ∧ filter.partialValue = [] ∧ ∃ op ∈ [Operator.gt, .lt],
      ∃ description score, suggestion = operatorStub filter op.symbol description score) := by
  have hshortcut : ∀ (top : Nat) (make : String × String → Score → Suggestion),
      suggestion ∈ falling (startingWith filter.partialValue Prod.fst dateShortcuts) top make →
      (∀ item score, (make item score).kind = .value ∧ (make item score).label = item.2 ∧
        (make item score).value = extend filter.typed (impliedSymbol filter ++ item.1)) →
      ∃ item ∈ dateShortcuts, Text.lowercase filter.partialValue <+: item.1.toList ∧
        suggestion.kind = .value ∧ suggestion.label = item.2 ∧
        suggestion.value = extend filter.typed (impliedSymbol filter ++ item.1) := by
    intro top make hmem hmake
    obtain ⟨item, hitem, score, rfl⟩ := exists_of_mem_falling hmem
    obtain ⟨hshortcut, htyped⟩ := mem_startingWith.mp hitem
    exact ⟨item, hshortcut, htyped, hmake item score⟩
  unfold dateValues at h
  dsimp only at h
  split at h
  · next htyped =>
    simp only [Bool.and_eq_true, Option.isNone_iff_eq_none, List.isEmpty_iff] at htyped
    rcases List.mem_append.mp h with hmem | hmem
    · exact Or.inl (hshortcut _ _ hmem fun _ _ => ⟨rfl, rfl, rfl⟩)
    · simp only [List.mem_cons, List.not_mem_nil, or_false] at hmem
      refine Or.inr ⟨htyped.1, htyped.2, ?_⟩
      rcases hmem with rfl | rfl
      · exact ⟨.gt, by simp, _, _, rfl⟩
      · exact ⟨.lt, by simp, _, _, rfl⟩
  · exact Or.inl (hshortcut _ _ h fun _ _ => ⟨rfl, rfl, rfl⟩)

/-- The suggestions for a filter are those of its subject. -/
theorem valueSuggestions_cases {filter : FilterInProgress} {suggestions : List Suggestion}
    (hfilter : FilterInProgress.read? word = some filter)
    (hsome : valueSuggestions? schema filter facets = some suggestions) :
    (isSortKeyword filter.name = true ∧ suggestions = sortValues filter) ∨
    ∃ field, IsFilterOn schema word filter field ∧
      ((field.type = .enum ∧ suggestions = enumValues field filter facets) ∨
        (field.type = .date ∧ suggestions = dateValues filter) ∨
        (field.type = .number ∧ suggestions = numberStubs field filter) ∨
        (field.type = .text ∧ suggestions = [])) := by
  unfold valueSuggestions? at hsome
  split at hsome
  · next hsort =>
    cases hsome
    exact Or.inl ⟨hsort, rfl⟩
  · next hsort =>
    obtain ⟨field, hlookup, rfl⟩ := Option.map_eq_some_iff.mp hsome
    refine Or.inr ⟨field, ⟨hfilter, by simpa using hsort, hlookup⟩, ?_⟩
    cases field.type <;> simp

/-- A filter that denotes nothing has no suggestions of its own. -/
theorem valueSuggestions?_eq_none_iff {filter : FilterInProgress} :
    valueSuggestions? schema filter facets = none ↔ schema.resolve? filter.name = none := by
  unfold valueSuggestions? Schema.resolve?
  split <;> simp

/-- The suggestions for a word are those for the filter that it is, and else fields that it
may be the name of, or presets. -/
theorem wordSuggestions_cases (schema : Schema) (query : String) (word : List Char)
    (facets : Option Facets) :
    (∃ filter, FilterInProgress.read? word = some filter ∧
      valueSuggestions? schema filter facets =
        some (wordSuggestions schema query word facets)) ∨
    ((∀ filter, FilterInProgress.read? word = some filter →
        schema.resolve? filter.name = none) ∧
      (wordSuggestions schema query word facets = presets schema query ∨
        wordSuggestions schema query word facets = fieldSuggestions schema word query)) := by
  cases hfilter : FilterInProgress.read? word with
  | some filter =>
    have hlist : wordSuggestions schema query word facets =
        (valueSuggestions? schema filter facets).getD (presets schema query) := by
      simp only [wordSuggestions, hfilter]
    cases hsome : valueSuggestions? schema filter facets with
    | some suggestions =>
      rw [hsome, Option.getD_some] at hlist
      exact Or.inl ⟨filter, rfl, by rw [hsome, hlist]⟩
    | none =>
      rw [hsome, Option.getD_none] at hlist
      refine Or.inr ⟨fun other hother => ?_, Or.inl hlist⟩
      cases hother
      exact valueSuggestions?_eq_none_iff.mp hsome
  | none =>
    refine Or.inr ⟨nofun, ?_⟩
    simp only [wordSuggestions, hfilter]
    by_cases hempty : (if word.isEmpty then [] else fieldSuggestions schema word query).isEmpty
    · exact Or.inl (if_pos hempty)
    · rw [if_neg hempty]
      by_cases hword : word.isEmpty = true
      · exact absurd (by simp [hword]) hempty
      · exact Or.inr (if_neg hword)

/-! ## Offers -/

/-- The values of a list, times before now, operators and orders are offered behind what
has been typed. -/
theorem offers_of_mem_valueSuggestions {filter : FilterInProgress}
    {suggestions : List Suggestion} (hfilter : FilterInProgress.read? word = some filter)
    (hsome : valueSuggestions? schema filter facets = some suggestions)
    (h : suggestion ∈ suggestions) : Offers schema word suggestion.value := by
  rcases valueSuggestions_cases hfilter hsome with ⟨hsort, rfl⟩ | ⟨field, hon, hcases⟩
  · obtain ⟨field, hfield, _, rfl⟩ := exists_of_mem_falling h
    exact .sortable hfilter hsort (mem_startingWith.mp hfield).1
  · rcases hcases with ⟨htype, rfl⟩ | ⟨htype, rfl⟩ | ⟨_, rfl⟩ | ⟨_, rfl⟩
    · unfold enumValues at h
      obtain ⟨value, hvalue, _, rfl⟩ := exists_of_mem_falling h
      exact .listed hon htype (mem_startingWith.mp hvalue).1
    · rcases dateValues_cases h with ⟨item, hitem, _, _, _, hvalue⟩ |
        ⟨hnone, _, op, _, _, _, rfl⟩
      · rw [hvalue]
        exact .shortcut hon htype (List.mem_map_of_mem hitem)
      · exact .comparison op hon hnone
    · unfold numberStubs at h
      split at h
      · next htyped =>
        obtain ⟨⟨op, description⟩, _, _, rfl⟩ := exists_of_mem_falling h
        simp only [Bool.and_eq_true, Option.isNone_iff_eq_none] at htyped
        exact .comparison op hon htyped.1
      · cases h
    · cases h

/-- Every suggestion for a word is an offer. -/
theorem offers_of_mem_wordSuggestions
    (h : suggestion ∈ wordSuggestions schema query word facets) :
    Offers schema word suggestion.value := by
  rcases wordSuggestions_cases schema query word facets with ⟨filter, hfilter, hsome⟩ |
    ⟨hnone, hcases⟩
  · exact offers_of_mem_valueSuggestions hfilter hsome h
  · have hword : ∀ filter field, ¬IsFilterOn schema word filter field := by
      intro filter field hon
      have hresolve := hon.resolve?
      rw [hnone filter hon.1] at hresolve
      cases hresolve
    rcases hcases with heq | heq
    · rw [heq] at h
      exact .fixed (mem_fixedFilters_of_mem_presets h) hword
    · rw [heq, fieldSuggestions_eq] at h
      obtain ⟨heading, hmem, rfl⟩ := List.mem_map.mp h
      have hheading := (mem_remaining_iff.mp hmem).1
      cases heading with
      | field f =>
        have hfield : f ∈ schema.fields := by simpa [headings] using hheading
        exact .name (dashOf_cases word) (Or.inr ⟨f, hfield, rfl⟩) hword
      | sort =>
        have hdash : "" = "" ∨ "" = "-" := Or.inl rfl
        exact .name hdash (Or.inl rfl) hword

/-! ## The whole list -/

/-- There is no word in a blank text. -/
theorem wordBefore_of_blank {text : List Char} (h : ∀ c ∈ text, Text.isBlank c = true)
    (cursor : Nat) : wordBefore text cursor = [] := by
  have hblank : ∀ c ∈ (Text.takeBytes cursor text).reverse, Text.isSolid c = false := by
    intro c hc
    have hmem : c ∈ text := by
      rw [← Text.takeBytes_append_dropBytes cursor text]
      exact List.mem_append_left _ (List.mem_reverse.mp hc)
    simp [Text.isSolid, h c hmem]
  have hnone : (Text.takeBytes cursor text).reverse.takeWhile Text.isSolid = [] := by
    cases hlist : (Text.takeBytes cursor text).reverse with
    | nil => rfl
    | cons c rest =>
      rw [hlist] at hblank
      simp [hblank c List.mem_cons_self]
  rw [wordBefore, hnone]
  rfl

/-- For a query that is not blank, recent queries are suggested behind the ranked suggestions
for the word under the cursor. -/
theorem suggest_of_solid (cursor : Nat) (history : List String) (saved : List SavedSearch)
    (hquery : ∃ c ∈ query.toList, Text.isBlank c = false) :
    let ranked := rank (wordSuggestions schema query (wordBefore query.toList cursor) facets)
    suggest schema query cursor history saved facets =
      (ranked ++ historyMatches query history ranked).take maxSuggestions := by
  have hsome : ¬(Text.trim query.toList).isEmpty = true := by
    rw [List.isEmpty_iff, Text.trim_eq_nil_iff]
    intro hblank
    obtain ⟨c, hc, hsolid⟩ := hquery
    rw [hblank c hc] at hsolid
    cases hsolid
  rw [suggest, if_neg hsome]

/-- For a blank query, what to start with is ranked. -/
theorem suggest_of_blank (cursor : Nat) (history : List String) (saved : List SavedSearch)
    (hquery : ∀ c ∈ query.toList, Text.isBlank c = true) :
    suggest schema query cursor history saved facets =
      (rank (startSuggestions history saved)).take maxSuggestions := by
  rw [suggest, if_pos]
  rwa [List.isEmpty_iff, Text.trim_eq_nil_iff]

/-- Behind a word, every suggestion is a recent query or one for the word. -/
theorem mem_wordSuggestions_of_mem_suggest {cursor : Nat} {history : List String}
    {saved : List SavedSearch} (hquery : ∃ c ∈ query.toList, Text.isBlank c = false)
    (h : suggestion ∈ suggest schema query cursor history saved facets)
    (hhistory : suggestion.kind ≠ .history) :
    suggestion ∈ wordSuggestions schema query (wordBefore query.toList cursor) facets := by
  rw [suggest_of_solid cursor history saved hquery] at h
  rcases List.mem_append.mp (List.mem_of_mem_take h) with hword | hmatch
  · exact mem_rank.mp hword
  · obtain ⟨_, _, _, rfl⟩ := exists_of_mem_falling hmatch
    exact absurd rfl hhistory

/-- Every suggestion is a saved search, a recent query or an offer. -/
theorem offers_of_mem_suggest {cursor : Nat} {history : List String} {saved : List SavedSearch}
    (h : suggestion ∈ suggest schema query cursor history saved facets)
    (hhistory : suggestion.kind ≠ .history) (hsaved : suggestion.kind ≠ .saved) :
    Offers schema (wordBefore query.toList cursor) suggestion.value := by
  by_cases hquery : ∃ c ∈ query.toList, Text.isBlank c = false
  · exact offers_of_mem_wordSuggestions (mem_wordSuggestions_of_mem_suggest hquery h hhistory)
  · have hblank : ∀ c ∈ query.toList, Text.isBlank c = true := by simpa using hquery
    rw [suggest_of_blank cursor history saved hblank] at h
    rcases start_cases (mem_rank.mp (List.mem_of_mem_take h)) with hkind | hkind | hvalue
    · exact absurd hkind hsaved
    · exact absurd hkind hhistory
    · refine .fixed hvalue fun filter field hon => ?_
      have hread := hon.1
      rw [wordBefore_of_blank hblank] at hread
      cases hread

end

end IssueSearch.Completion
