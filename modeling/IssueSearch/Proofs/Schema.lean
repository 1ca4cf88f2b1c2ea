import IssueSearch.Schema

/-!
# Names of fields

A name stands for one entry of the table.  A canonical name goes before all aliases, also for
an entry further down, and among equals the first entry goes before the others.

* `Schema.StandsFor`: the entry that a name stands for;
* `lookup_eq_some_iff`, `lookup_eq_none_iff`: it is the one that is found;
* `Schema.HasDistinctNames`, `lookup_name`: an entry is found by its own name, if the table has
  no other one of this name;
* `mem_of_lookup`, `resolve?_eq_sort_iff`, `resolve?_eq_field_iff`, `resolve?_eq_none_iff`: what
  the name of a filter denotes.
-/

namespace IssueSearch

/-- The entry of the table that a name stands for in any ASCII case. -/
inductive Schema.StandsFor (schema : Schema) (name : List Char) (field : Field) : Prop where
  /-- The first entry with the canonical name. -/
  | byName {before after : List Field} (htable : schema.fields = before ++ field :: after)
      (hname : field.isNamed name = true) (hfirst : ∀ other ∈ before, other.isNamed name = false)
  /-- The first entry with the alias, if there is none with the canonical name. -/
  | byAlias {before after : List Field}
      (hnone : ∀ other ∈ schema.fields, other.isNamed name = false)
      (htable : schema.fields = before ++ field :: after) (halias : field.hasAlias name = true)
      (hfirst : ∀ other ∈ before, other.hasAlias name = false)

/-- No two entries of the table have the same canonical name, up to ASCII case. -/
def Schema.HasDistinctNames (schema : Schema) : Prop :=
  schema.fields.Pairwise fun first second => first.isNamed second.name.toList = false

instance (schema : Schema) : Decidable schema.HasDistinctNames :=
  inferInstanceAs (Decidable (schema.fields.Pairwise _))

section

variable {schema : Schema} {name : List Char} {field : Field}

/-! ## Looking up a name -/

/-- A name is found if, and only if, it stands for an entry, and this is the one that is
found. -/
theorem lookup_eq_some_iff : schema.lookup name = some field ↔ schema.StandsFor name field := by
  rw [Schema.lookup_eq_or, Option.or_eq_some_iff, List.find?_eq_none,
    List.find?_eq_some_iff_append, List.find?_eq_some_iff_append]
  simp only [Bool.not_eq_true, Bool.not_eq_true']
  constructor
  · rintro (⟨hname, before, after, htable, hfirst⟩ | ⟨hnone, halias, before, after, htable, hfirst⟩)
    · exact .byName htable hname hfirst
    · exact .byAlias hnone htable halias hfirst
  · rintro (⟨htable, hname, hfirst⟩ | ⟨hnone, htable, halias, hfirst⟩)
    · exact Or.inl ⟨hname, _, _, htable, hfirst⟩
    · exact Or.inr ⟨hnone, halias, _, _, htable, hfirst⟩

/-- A name is not found if, and only if, no entry goes by it. -/
theorem lookup_eq_none_iff : schema.lookup name = none ↔
    ∀ field ∈ schema.fields, field.isNamed name = false ∧ field.hasAlias name = false := by
  rw [Schema.lookup_eq_or, Option.or_eq_none_iff, List.find?_eq_none, List.find?_eq_none]
  simp only [Bool.not_eq_true]
  exact ⟨fun ⟨hname, halias⟩ field h => ⟨hname field h, halias field h⟩,
    fun h => ⟨fun field hmem => (h field hmem).1, fun field hmem => (h field hmem).2⟩⟩

/-- What a name stands for is part of the table. -/
theorem mem_of_lookup (h : schema.lookup name = some field) : field ∈ schema.fields := by
  cases lookup_eq_some_iff.mp h with
  | byName htable => simp [htable]
  | byAlias _ htable => simp [htable]

/-- No alias captures a canonical name. -/
theorem exists_lookup_of_isNamed (hmem : field ∈ schema.fields)
    (hname : field.isNamed name = true) :
    ∃ found, schema.lookup name = some found ∧ found.isNamed name = true := by
  cases hlookup : schema.lookup name with
  | none =>
    have hnone := (lookup_eq_none_iff.mp hlookup field hmem).1
    rw [hname] at hnone
    cases hnone
  | some found =>
    cases lookup_eq_some_iff.mp hlookup with
    | byName _ hfound => exact ⟨found, rfl, hfound⟩
    | byAlias hnone =>
      rw [hnone field hmem] at hname
      cases hname

/-- An entry is found by its own name, if the names are distinct. -/
theorem lookup_name (hdistinct : schema.HasDistinctNames) (hmem : field ∈ schema.fields) :
    schema.lookup field.name.toList = some field := by
  obtain ⟨before, after, htable⟩ := List.append_of_mem hmem
  have hself : field.isNamed field.name.toList = true := by
    simp [Field.isNamed, Text.eqIgnoreCase]
  rw [Schema.HasDistinctNames, htable, List.pairwise_append] at hdistinct
  exact lookup_eq_some_iff.mpr (.byName htable hself fun other hother =>
    hdistinct.2.2 other hother field List.mem_cons_self)

/-! ## Names of filters -/

/-- A name denotes the sort order if it is the keyword. -/
theorem resolve?_eq_sort_iff : schema.resolve? name = some .sort ↔ isSortKeyword name = true := by
  unfold Schema.resolve?
  split <;> simp_all

/-- A name denotes a field if it is not the keyword and is found in the table. -/
theorem resolve?_eq_field_iff {canonical : String} :
    schema.resolve? name = some (.field canonical) ↔
      isSortKeyword name = false ∧
        ∃ field, schema.lookup name = some field ∧ field.name = canonical := by
  unfold Schema.resolve?
  split <;> simp_all

/-- A name denotes nothing if it is neither the keyword nor found in the table. -/
theorem resolve?_eq_none_iff :
    schema.resolve? name = none ↔ isSortKeyword name = false ∧ schema.lookup name = none := by
  unfold Schema.resolve?
  split <;> simp_all

end

end IssueSearch
