import IssueSearch.Proofs.Token.Grammar
import IssueSearch.Validation

/-!
# One entry for a filter

The name in a filter is looked up twice: as it is typed by the scanner, which keeps the canonical
name, and by this name when the filter is validated.  In a table with distinct names both find
the same entry.

* `effect_eq_fieldEffect`: a filter is validated against the entry that its typed name stands for;
* `lookup_priority`: which entry a name stands for, in any table.
-/

namespace IssueSearch

/-- In a table with distinct names a filter is validated against the entry that the name in it
stands for. -/
theorem effect_eq_fieldEffect {schema : Schema} {query : String} {token : Token}
    (hdistinct : schema.HasDistinctNames) (hmem : token ∈ schema.tokenize query)
    (hkind : token.kind = .field) :
    ∃ name field, IsWrittenOn name token.raw.toList ∧ schema.StandsFor name field ∧
      ∀ now, token.effect schema now = token.fieldEffect field now := by
  obtain ⟨after, hwritten⟩ := exists_isWritten hmem
  obtain ⟨name, _, _, hfilter⟩ := hwritten.filter (by simp [Token.isFilter, hkind])
  rcases hfilter.denotes with ⟨_, hsort, _⟩ | ⟨_, _, field, hlookup, hfield⟩
  · rw [hkind] at hsort
    cases hsort
  · have hown := lookup_name hdistinct (mem_of_lookup hlookup)
    refine ⟨name, field, hfilter.isWrittenOn, lookup_eq_some_iff.mp hlookup, fun now => ?_⟩
    simp [Token.effect, hkind, hfield, hown]

/-- A name is looked up as the first entry with this canonical name, else as the first entry with
this alias, and else it is not found; so no alias captures a canonical name.  If the canonical
names are distinct, an entry that is found is found again by its own name, and every filter on a
field is validated against the entry that the name in it stands for. -/
theorem lookup_priority (schema : Schema) :
    (∀ name field, schema.lookup name = some field ↔ schema.StandsFor name field) ∧
    (∀ name, schema.lookup name = none ↔
      ∀ field ∈ schema.fields, field.isNamed name = false ∧ field.hasAlias name = false) ∧
    (∀ name, ∀ field ∈ schema.fields, field.isNamed name = true →
      ∃ found, schema.lookup name = some found ∧ found.isNamed name = true) ∧
    (schema.HasDistinctNames →
      (∀ name field, schema.lookup name = some field →
        schema.lookup field.name.toList = some field) ∧
      ∀ query, ∀ token ∈ schema.tokenize query, token.kind = .field →
        ∃ name field, IsWrittenOn name token.raw.toList ∧ schema.StandsFor name field ∧
          ∀ now, token.effect schema now = token.fieldEffect field now) := by
  refine ⟨fun _ _ => lookup_eq_some_iff, fun _ => lookup_eq_none_iff,
    fun _ _ => exists_lookup_of_isNamed, fun hdistinct => ⟨fun _ _ hlookup => ?_, ?_⟩⟩
  · exact lookup_name hdistinct (mem_of_lookup hlookup)
  · exact fun _ _ hmem hkind => effect_eq_fieldEffect hdistinct hmem hkind

/-- Three fields whose aliases collide with each other and with the names of fields further
down. -/
theorem lookup_priority_colliding :
    let first : Field := { name := "a", type := .text, aliases := ["shared", "B"] }
    let second : Field := { name := "b", type := .number, aliases := ["SHARED", "A"] }
    let third : Field := { name := "C", type := .date, aliases := ["b", "own"] }
    let schema : Schema := ⟨[first, second, third]⟩
    let query := "-B:>5 Shared:x OWN:7d"
    schema.HasDistinctNames ∧
      (schema.StandsFor "B".toList second ∧ schema.StandsFor "Shared".toList first ∧
        schema.StandsFor "OWN".toList third) ∧
      (∀ name field, schema.lookup name = some field →
        schema.lookup field.name.toList = some field) ∧
      ∀ token ∈ schema.tokenize query, token.kind = .field ∧
        ∃ name field, IsWrittenOn name token.raw.toList ∧ schema.StandsFor name field ∧
          ∀ now, token.effect schema now = token.fieldEffect field now := by
  intro first second third schema query
  have hdistinct : schema.HasDistinctNames := by decide
  have hkinds : ∀ token ∈ schema.tokenize query, token.kind = .field := by decide +kernel
  obtain ⟨hlookup, _, _, hsame⟩ := lookup_priority schema
  obtain ⟨hown, hvalidated⟩ := hsame hdistinct
  refine ⟨hdistinct, ⟨?_, ?_, ?_⟩, hown, fun token hmem =>
    ⟨hkinds token hmem, hvalidated query token hmem (hkinds token hmem)⟩⟩
  · exact (hlookup _ _).mp (by decide)
  · exact (hlookup _ _).mp (by decide)
  · exact (hlookup _ _).mp (by decide)

/-- A second entry of the same name is found by its alias, but not by its name. -/
example :
    let schema : Schema := ⟨[{ name := "a", type := .text },
      { name := "A", type := .number, aliases := ["other"] }]⟩
    (schema.lookup "other".toList).map (·.name) = some "A" ∧
      (schema.lookup "A".toList).map (·.name) = some "a" := by
  decide

end IssueSearch
