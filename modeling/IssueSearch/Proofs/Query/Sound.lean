import IssueSearch.Proofs.Filters
import IssueSearch.Proofs.Query.Effect
import IssueSearch.Proofs.Text.Lowercase
import IssueSearch.Proofs.Token.Ending

/-!
# What a query of the standard fields can mean

Whatever the query, its filters are sound, it is ordered by a sortable field, and
its free text is made of words.

* `isValue_of_readLexeme?`: the value of every lexeme is one that can be written;
* `isSound_of_clause?`, `effect_isSound`: what a field and a token can contribute;
* `isSound_outcome`: what a query adds up to, by induction on its lexemes.
-/

namespace IssueSearch

open Text (IsValue IsWord)
open Time (Instant)

/-! ## Values of lexemes -/

/-- The value at the start of a text. -/
theorem isValue_readValue (text : List Char) : IsValue (readValue text).value := by
  rcases readValue_cases text with ⟨inner, _, hinner, hread⟩ | ⟨inner, _, _, hinner, hread⟩ |
    ⟨word, _, _, hword, hhead, _, hread⟩
  · rw [hread]
    exact Or.inl hinner
  · rw [hread]
    exact Or.inl hinner
  · rw [hread]
    exact Or.inr ⟨hword, hhead⟩

/-- Every lexeme has a value that can be written. -/
theorem isValue_of_readLexeme? {schema : Schema} {text : List Char} {reading : Reading}
    (h : readLexeme? schema text = some reading) : IsValue reading.lexeme.value := by
  cases lexemeForm h with
  | phrase inner => exact isValue_readValue ('"' :: inner)
  | filter body => exact isValue_readValue _
  | keyword => exact Or.inl (show '"' ∉ ['O', 'R'] by decide)
  | word hword _ hquote => exact Or.inr ⟨hword, hquote⟩

/-! ## Clauses -/

/-- The entries of the table that an accepted value can come from. -/
theorem standard_values : ∀ field ∈ Schema.standard.fields,
    (∀ value ∈ field.values, Text.lowerAscii value.toList = value.toList) ∧
    (field.name = "is" → field.values = statusValues) ∧
    (field.name = "level" → field.values = levelValues) := by
  decide

/-- An accepted value in lower case is one of the allowed ones. -/
theorem mem_values_of_accepts {field : Field} (hfield : field ∈ Schema.standard.fields)
    {value : List Char} (h : field.accepts (Text.lowercase value) = true) :
    String.ofList (Text.lowercase value) ∈ field.values := by
  obtain ⟨allowed, hallowed, heq⟩ := List.any_eq_true.mp h
  have hlow := (standard_values field hfield).1 allowed hallowed
  rw [Text.eqIgnoreCase_iff, hlow, Text.lowerAscii_lowercase] at heq
  rwa [← heq, String.ofList_toList]

/-- A moment that a filter accepts is in the years that can be written, and so is
the end of the day that an equality covers. -/
theorem isSound_of_moment? {operator : Operator} {value : List Char} {now moment : Instant}
    (h : Field.moment? operator value now = some moment) (field : String) :
    (Clause.date field operator moment).IsSound := by
  have hrepresentable : ∀ found, Time.resolve? now value = some found →
      found.isRepresentable = true := by
    intro found hfound
    exact (Option.filter_eq_some_iff.mp hfound).2
  simp only [Field.moment?, Option.bind_eq_bind, Option.bind_eq_some_iff] at h
  obtain ⟨found, hfound, h⟩ := h
  split at h
  · obtain ⟨next, hnext, h⟩ := Option.bind_eq_some_iff.mp h
    obtain ⟨hday, hyear⟩ := Option.filter_eq_some_iff.mp hnext
    cases h
    exact ⟨hrepresentable _ hfound, fun _ => ⟨next, hday, hyear⟩⟩
  · next hne =>
    cases h
    exact ⟨hrepresentable _ hfound, fun heq => absurd heq hne⟩

/-- A field accepts sound clauses only. -/
theorem isSound_of_clause? {field : Field} (hfield : field ∈ Schema.standard.fields)
    {token : Token} (hvalue : IsValue token.value.toList) {now : Instant} {clause : Clause}
    (h : field.clause? token now = .ok (some clause)) : clause.IsSound := by
  obtain ⟨hne, henum | ⟨n, operator, hnumber, rfl⟩ | ⟨moment, operator, hmoment, rfl⟩ | rfl⟩ :=
    clause?_cases h
  · unfold Field.enumClause at henum
    dsimp only at henum
    split at henum
    · next haccepts =>
      cases henum
      have hmem := mem_values_of_accepts hfield haccepts
      obtain ⟨_, hstatus, hlevel⟩ := standard_values field hfield
      exact ⟨fun hname => hstatus hname ▸ hmem, fun hname => hlevel hname ▸ hmem⟩
    · cases henum
  · exact (nonNegative_eq_ok_iff.mp hnumber).2
  · exact isSound_of_moment? hmoment field.name
  · refine ⟨?_, ?_⟩ <;> rw [String.toList_ofList]
    · exact hne
    · exact hvalue.trim

/-! ## Effects -/

/-- What a token of the standard fields can contribute. -/
def Effect.IsSound : Effect → Prop
  | .nothing => True
  | .word text => IsWord text.toList
  | .clause found => found.IsSound
  | .sort order => isSortable order.field = true
  | .reject _ => True

/-- An accepted sort order names a sortable field. -/
theorem isSortable_of_sortOrder? {value : List Char} {order : SortOrder}
    (h : sortOrder? value = .ok (some order)) : isSortable order.field = true := by
  unfold sortOrder? at h
  dsimp only at h
  split at h
  · cases h
  · split at h
    · next hsortable =>
      cases h
      exact hsortable
    · cases h

/-- Every token contributes something sound. -/
theorem effect_isSound {token : Token} (hvalue : IsValue token.value.toList) (now : Instant) :
    (token.effect Schema.standard now).IsSound := by
  rcases effect_cases token Schema.standard now with hidle | ⟨_, hne, hword⟩ |
    ⟨_, order, horder, hsort⟩ | ⟨_, _, field, hfield, clause, hclause, heffect⟩
  · rcases hidle with hnothing | ⟨cause, hreject⟩
    · rw [hnothing]
      trivial
    · rw [hreject]
      trivial
  · rw [hword]
    exact ⟨by simpa using hne, hvalue⟩
  · rw [hsort]
    exact isSortable_of_sortOrder? horder
  · rw [heffect]
    have hsound := isSound_of_clause? hfield hvalue hclause
    cases clause <;> exact hsound

/-! ## Queries -/

/-- What a query of the standard fields can add up to. -/
structure Outcome.IsSound (outcome : Outcome) : Prop where
  filters : outcome.filters.IsParsed
  sort : ∀ order ∈ outcome.sort, isSortable order.field = true
  words : ∀ word ∈ outcome.words, IsWord word.toList

/-- At first there is nothing. -/
theorem isSound_empty : Outcome.empty.IsSound where
  filters := Filters.isParsed_empty
  sort := by
    intro order horder
    cases horder
  words := by
    intro word hword
    cases hword

/-- A sound effect keeps the outcome sound. -/
theorem Outcome.IsSound.step {outcome : Outcome} (h : outcome.IsSound) {effect : Effect}
    (heffect : effect.IsSound) : (outcome.step effect).IsSound := by
  cases effect with
  | nothing => exact h
  | word text =>
    refine { h with words := fun word hword => ?_ }
    rcases List.mem_append.mp hword with hword | hword
    · exact h.words word hword
    · rw [List.mem_singleton.mp hword]
      exact heffect
  | clause clause => exact { h with filters := h.filters.apply heffect }
  | sort order =>
    refine { h with sort := fun other hother => ?_ }
    cases hother
    exact heffect
  | reject cause => exact { h with }

/-- Whatever the query, it adds up to something sound. -/
theorem isSound_outcome (now : Instant) (text : List Char) :
    (Schema.standard.outcome now text Outcome.empty).IsSound := by
  refine outcome_induction text (fun part reading before _ hread hbefore => ?_) isSound_empty
  refine hbefore.step (effect_isSound ?_ now)
  show IsValue (String.ofList reading.lexeme.value).toList
  rw [String.toList_ofList]
  exact isValue_of_readLexeme? hread

end IssueSearch
