import IssueSearch.Proofs.Completion.Ranking
import Mathlib.Data.List.Nodup

/-!
# What is offered for a word differs

The suggestions for a word have different values: they are different names, or different
endings behind what has been typed.  A recent query is none of these values.  So a value is
offered twice only where the history holds it twice.

* `HasEndings`: suggestions with different endings behind what has been typed;
* `hasEndings_of_valueSuggestions?`: the suggestions for a filter;
* `IsDistinct`: the tables of which no two names and no two values are the same;
* `nodup_wordSuggestions`: the suggestions for a word;
* `suggest_nodup_iff`: when the values of the whole list differ.
-/

namespace IssueSearch.Completion

open Text (isBlank)

/-! ## Endings -/

/-- The values of the suggestions are different endings behind what has been typed. -/
def HasEndings (filter : FilterInProgress) (suggestions : List Suggestion) : Prop :=
  ∃ endings : List String, endings.Nodup ∧
    suggestions.map (·.value) = endings.map (extend filter.typed)

section

variable {filter : FilterInProgress} {suggestions : List Suggestion}

/-- Different endings stay different behind what has been typed. -/
theorem HasEndings.nodup (h : HasEndings filter suggestions) :
    (suggestions.map (·.value)).Nodup := by
  obtain ⟨endings, hnodup, hvalues⟩ := h
  rw [hvalues]
  exact hnodup.map fun _ _ hsame => (String.append_right_inj _).mp hsame

/-- A row has an ending for each of its items. -/
theorem map_value_falling {α : Type} {row : List α} {top : Nat}
    {make : α → Score → Suggestion} {ending : α → String}
    (hmake : ∀ item score, (make item score).value = extend filter.typed (ending item)) :
    (falling row top make).map (·.value) = (row.map ending).map (extend filter.typed) := by
  rw [map_falling_eq_map hmake, List.map_map]
  rfl

/-- A row of some items has endings, if those of all items differ. -/
theorem hasEndings_falling {α : Type} {row items : List α} {top : Nat}
    {make : α → Score → Suggestion} {ending : α → String} (hrow : row.Sublist items)
    (hmake : ∀ item score, (make item score).value = extend filter.typed (ending item))
    (hitems : (items.map ending).Nodup) : HasEndings filter (falling row top make) :=
  ⟨row.map ending, hitems.sublist (hrow.map ending), map_value_falling hmake⟩

/-- The values of a date have endings: the shortcuts, and two operators that no shortcut with
the implied operator in front is. -/
theorem hasEndings_dateValues : HasEndings filter (dateValues filter) := by
  have hrow : (startingWith filter.partialValue Prod.fst dateShortcuts).Sublist dateShortcuts :=
    List.filter_sublist
  unfold dateValues
  dsimp only
  split
  · next htyped =>
    simp only [Bool.and_eq_true, Option.isNone_iff_eq_none] at htyped
    rw [htyped.1]
    refine ⟨(startingWith filter.partialValue Prod.fst dateShortcuts).map (">" ++ ·.1) ++
      [">", "<"], ?_, ?_⟩
    · have hall : (dateShortcuts.map (">" ++ ·.1) ++ [">", "<"]).Nodup := by decide
      exact hall.sublist ((hrow.map _).append (List.Sublist.refl _))
    · rw [List.map_append, List.map_append, map_value_falling fun _ _ => rfl]
      rfl
  · refine hasEndings_falling hrow (fun _ _ => rfl) ?_
    split <;> decide

/-- The operators of a number have endings. -/
theorem hasEndings_numberStubs (field : Field) : HasEndings filter (numberStubs field filter) := by
  have hall : (numberOperators.map fun item => item.1.symbol).Nodup := by decide
  unfold numberStubs
  split
  · exact hasEndings_falling List.filter_sublist (fun _ _ => rfl) hall
  · exact ⟨[], List.nodup_nil, rfl⟩

end

/-! ## Tables -/

/-- The filter that a heading starts. -/
def Heading.written (dash : String) : Heading → String
  | field f => dash ++ f.name ++ ":"
  | sort => sortKeyword ++ ":"

@[simp]
theorem Heading.value_suggestion (heading : Heading) (dash : String) (score : Score) :
    (heading.suggestion dash score).value = heading.written dash := by
  cases heading <;> rfl

/-- A table with different names, none of which is the sort keyword, and with different values
for each field. -/
structure IsDistinct (schema : Schema) : Prop where
  names : ∀ dash ∈ ["", "-"], ((headings schema).map (Heading.written dash)).Nodup
  values : ∀ field ∈ schema.fields, field.values.Nodup

theorem isDistinct_standard : IsDistinct .standard :=
  ⟨by decide, by decide⟩

section

variable {schema : Schema} (hdistinct : IsDistinct schema) {word : List Char}
  {facets : Option Facets}
include hdistinct

/-- The suggestions for a filter have endings. -/
theorem hasEndings_of_valueSuggestions? {filter : FilterInProgress}
    {suggestions : List Suggestion} (hfilter : FilterInProgress.read? word = some filter)
    (hsome : valueSuggestions? schema filter facets = some suggestions) :
    HasEndings filter suggestions := by
  rcases valueSuggestions_cases hfilter hsome with ⟨_, rfl⟩ | ⟨field, hon, hcases⟩
  · have hall : (sortableFields.map id).Nodup := by decide
    unfold sortValues
    exact hasEndings_falling List.filter_sublist (fun _ _ => rfl) hall
  · rcases hcases with ⟨_, rfl⟩ | ⟨_, rfl⟩ | ⟨_, rfl⟩ | ⟨_, rfl⟩
    · have hall : (field.values.map id).Nodup := by
        rw [List.map_id]
        exact hdistinct.values field (mem_of_lookup hon.2.2)
      unfold enumValues
      exact hasEndings_falling List.filter_sublist (fun _ _ => rfl) hall
    · exact hasEndings_dateValues
    · exact hasEndings_numberStubs field
    · exact ⟨[], List.nodup_nil, rfl⟩

/-- The suggested fields are different. -/
theorem nodup_fieldSuggestions (query : String) (word : List Char) :
    ((fieldSuggestions schema word query).map (·.value)).Nodup := by
  have hdash : dashOf word ∈ ["", "-"] := by simpa using dashOf_cases word
  have hremaining : (remaining schema query (needleOf word)).Sublist (headings schema) :=
    List.filter_sublist
  have hvalues : (fieldSuggestions schema word query).map (·.value) =
      (remaining schema query (needleOf word)).map (Heading.written (dashOf word)) := by
    rw [fieldSuggestions_eq, List.map_map]
    exact List.map_congr_left fun heading _ => Heading.value_suggestion heading _ _
  rw [hvalues]
  exact (hdistinct.names _ hdash).sublist (hremaining.map _)

/-- The suggestions for a word are different. -/
theorem nodup_wordSuggestions (query : String) (word : List Char) (facets : Option Facets) :
    ((wordSuggestions schema query word facets).map (·.value)).Nodup := by
  rcases wordSuggestions_cases schema query word facets with ⟨filter, hfilter, hsome⟩ |
    ⟨_, heq | heq⟩
  · exact (hasEndings_of_valueSuggestions? hdistinct hfilter hsome).nodup
  · rw [heq]
    unfold presets
    dsimp only
    split_ifs <;> decide
  · rw [heq]
    exact nodup_fieldSuggestions hdistinct query word

end

/-! ## The whole list -/

/-- The suggested entries of the history are recent queries, and stand in its order. -/
theorem pairwise_falling_sublist {history entries : List String} (h : entries.Sublist history) :
    (falling entries 10 historySuggestion).Pairwise fun a b =>
      a.kind = .history ∧ b.kind = .history ∧ [a.value, b.value].Sublist history := by
  have hkind : ∀ recent ∈ falling entries 10 historySuggestion, recent.kind = .history := by
    intro recent hmem
    obtain ⟨_, _, _, rfl⟩ := exists_of_mem_falling hmem
    rfl
  refine List.pairwise_iff_forall_sublist.mpr fun {a b} hpair => ⟨?_, ?_, ?_⟩
  · exact hkind a (hpair.subset (by simp))
  · exact hkind b (hpair.subset (by simp))
  · have hvalues := hpair.map (·.value)
    rw [map_falling fun _ _ => rfl] at hvalues
    exact hvalues.trans h

/-- The values that are offered for a query that is not blank differ if, and only if, the
suggested entries of the history do, as they do when the history holds nothing twice.  Two
suggestions with the same value are both recent queries, and the history holds this value
twice. -/
theorem suggest_nodup_iff (query : String) (cursor : Nat) (history : List String)
    (saved : List SavedSearch) (facets : Option Facets)
    (hquery : ∃ c ∈ query.toList, isBlank c = false) :
    let block := wordSuggestions .standard query (wordBefore query.toList cursor) facets
    let found := suggest .standard query cursor history saved facets
    ((found.map (·.value)).Nodup ↔ (recentEntries query history block).Nodup) ∧
      (history.Nodup → (found.map (·.value)).Nodup) ∧
      found.Pairwise fun a b => a.value = b.value →
        a.kind = .history ∧ b.kind = .history ∧ [a.value, b.value].Sublist history := by
  intro block found
  have hentries : (recentEntries query history block).Sublist history :=
    (List.take_sublist _ _).trans List.filter_sublist
  have hrecent : (falling (recentEntries query history block) 10 historySuggestion).map (·.value) =
      recentEntries query history block := map_falling fun _ _ => rfl
  have hranked : ((rank block).map (·.value)).Nodup :=
    ((rank_perm block).map _).nodup_iff.mpr
      (nodup_wordSuggestions isDistinct_standard query _ facets)
  -- no recent query has been suggested for the word
  have hapart : ∀ value ∈ (rank block).map (·.value),
      ∀ entry ∈ recentEntries query history block, value ≠ entry := by
    intro value hvalue entry hentry
    obtain ⟨suggestion, hmem, rfl⟩ := List.mem_map.mp hvalue
    exact (continues_of_mem_recentEntries hentry).2.2 suggestion (mem_rank.mp hmem)
  have hfound : found = rank block ++
      falling (recentEntries query history block) 10 historySuggestion :=
    suggest_eq_append isShort_standard query cursor history saved facets hquery
  have hiff : (found.map (·.value)).Nodup ↔ (recentEntries query history block).Nodup := by
    rw [hfound, List.map_append, hrecent, List.nodup_append]
    exact ⟨fun h => h.2.1, fun h => ⟨hranked, h, hapart⟩⟩
  refine ⟨hiff, fun h => hiff.mpr (h.sublist hentries), ?_⟩
  rw [hfound]
  refine List.pairwise_append.mpr ⟨?_, ?_, fun suggestion hmem recent hlast hsame => ?_⟩
  · exact (List.pairwise_map.mp hranked).imp fun hne hsame => absurd hsame hne
  · refine (pairwise_falling_sublist hentries).imp ?_
    intro a b hpair _
    exact hpair
  · have hentry : recent.value ∈ recentEntries query history block :=
      hrecent ▸ List.mem_map_of_mem hlast
    exact absurd hsame (hapart _ (List.mem_map_of_mem hmem) _ hentry)

/-- A level behind a dash: its values, and of the history an entry that is held twice but has
been suggested already, and two others that differ in letter case only. -/
theorem suggest_nodup_iff_level :
    let query := "-severity:e"
    let history := ["-severity:error", "-severity:e a", "-severity:error", "-SEVERITY:E a"]
    let block := wordSuggestions .standard query (wordBefore query.toList 11) none
    let found := suggest .standard query 11 history [] none
    (∃ c ∈ query.toList, isBlank c = false) ∧
      found.map (·.value) = ["-severity:error", "-severity:e a", "-SEVERITY:E a"] ∧
      (recentEntries query history block).Nodup ∧ (found.map (·.value)).Nodup := by
  intro query history block found
  have hquery : ∃ c ∈ query.toList, isBlank c = false := ⟨'-', by decide, by decide⟩
  have hentries : (recentEntries query history block).Nodup := by decide +kernel
  exact ⟨hquery, by decide +kernel, hentries,
    (suggest_nodup_iff query 11 history [] none hquery).1.mpr hentries⟩

/-- An entry that the history holds twice is offered twice. -/
theorem exists_repeated_suggestion :
    let query := "count:>"
    let found := suggest .standard query 7 ["count:>5", "count:>5"] [] none
    (∃ c ∈ query.toList, isBlank c = false) ∧
      found.map (·.value) = ["count:>5", "count:>5"] ∧ ¬(found.map (·.value)).Nodup := by
  intro query found
  have hquery : ∃ c ∈ query.toList, isBlank c = false := ⟨'c', by decide, by decide⟩
  have hblock : wordSuggestions .standard query (wordBefore query.toList 7) none = [] :=
    List.isEmpty_iff.mp (by decide +kernel)
  have hentries : recentEntries query ["count:>5", "count:>5"] [] = ["count:>5", "count:>5"] := by
    decide +kernel
  have hfound : found = falling ["count:>5", "count:>5"] 10 historySuggestion := by
    have happend := suggest_eq_append isShort_standard query 7 ["count:>5", "count:>5"] [] none
      hquery
    simp only [hblock, hentries, rank_of_pairwise .nil, List.nil_append] at happend
    exact happend
  have hvalues : found.map (·.value) = ["count:>5", "count:>5"] := by
    rw [hfound]
    exact map_falling fun _ _ => rfl
  exact ⟨hquery, hvalues, by rw [hvalues]; decide⟩

end IssueSearch.Completion
