import IssueSearch.Completion
import IssueSearch.Proofs.Score
import Mathlib.Order.Bounds.Defs

/-!
# The names that are suggested

The fields of the table and the sort order are headings: each may start a filter, and all are
suggested in the same way, by the best score of their names.

* `Heading`, `headings`: what a filter may start with, in the order of the table;
* `Heading.IsBest`, `isBest_score`: the score of a heading;
* `Heading.isSkipped`, `remaining`: the headings that are suggested for a word;
* `fieldSuggestions_eq`: the suggestions, one for each of these.
-/

namespace IssueSearch.Completion

/-! ## Headings -/

/-- What a filter may start with: the name of a field, or the sort keyword. -/
inductive Heading where
  | field (field : Field)
  | sort
  deriving DecidableEq

/-- The fields in the order of the table, and the sort order behind them. -/
def headings (schema : Schema) : List Heading :=
  schema.fields.map .field ++ [.sort]

/-- The part of a word that a name is compared with: the word without one dash in front. -/
def needleOf : List Char → List Char
  | '-' :: rest => rest
  | word => word

/-- The dash in front of a word. -/
def dashOf : List Char → String
  | '-' :: _ => "-"
  | _ => ""

theorem dashOf_cases (word : List Char) : dashOf word = "" ∨ dashOf word = "-" := by
  unfold dashOf
  split
  · exact Or.inr rfl
  · exact Or.inl rfl

namespace Heading

/-- The names of a heading. -/
def names : Heading → List String
  | field f => f.name :: f.aliases
  | sort => [sortKeyword]

/-- The name that is suggested. -/
def name : Heading → String
  | field f => f.name
  | sort => sortKeyword

/-- The score of a heading for what has been typed. -/
def score (needle : List Char) : Heading → Score
  | field f => fieldScore f needle
  | sort => matchScore sortKeyword.toList needle

/-- The suggestion of a heading.  A dash stays in front of a field. -/
def suggestion (dash : String) (score : Score) : Heading → Suggestion
  | field f => nameSuggestion dash f.name f.description score
  | sort => nameSuggestion "" sortKeyword "Sort results" score

/-- The score is the best one of the names. -/
def IsBest (needle : List Char) (score : Score) (heading : Heading) : Prop :=
  IsGreatest {found | ∃ name ∈ heading.names, matchScore name.toList needle = found} score

@[simp]
theorem kind_suggestion (heading : Heading) (dash : String) (score : Score) :
    (heading.suggestion dash score).kind = .field := by
  cases heading <;> rfl

@[simp]
theorem score_suggestion (heading : Heading) (dash : String) (score : Score) :
    (heading.suggestion dash score).score = score := by
  cases heading <;> rfl

end Heading

/-! ## Scores -/

/-- The better of two scores is one of them and below neither. -/
theorem better_cases (first second : Score) :
    (better first second = first ∧ second ≤ first) ∨
      (better first second = second ∧ first ≤ second) := by
  unfold better
  split
  · next h => exact Or.inr ⟨rfl, h⟩
  · next h => exact Or.inl ⟨rfl, le_of_not_ge h⟩

/-- The best of some scores is one of them and below none. -/
theorem foldl_better (first : Score) (scores : List Score) :
    scores.foldl better first ∈ first :: scores ∧
      ∀ score ∈ first :: scores, score ≤ scores.foldl better first := by
  induction scores generalizing first with
  | nil => simp
  | cons second scores ih =>
    obtain ⟨hmem, hle⟩ := ih (better first second)
    obtain ⟨hbest, hrest⟩ := List.forall_mem_cons.mp hle
    rw [List.foldl_cons]
    simp only [List.mem_cons, forall_eq_or_imp] at hmem ⊢
    -- the other one of the first two is not above the best
    rcases better_cases first second with ⟨heq, hlt⟩ | ⟨heq, hlt⟩
    · rw [heq] at hmem hbest hrest ⊢
      exact ⟨hmem.imp_right Or.inr, hbest, le_trans hlt hbest, hrest⟩
    · rw [heq] at hmem hbest hrest ⊢
      exact ⟨Or.inr hmem, le_trans hlt hbest, hbest, hrest⟩

/-- A heading has the best score of its names. -/
theorem isBest_score (needle : List Char) (heading : Heading) :
    heading.IsBest needle (heading.score needle) := by
  have hbest : heading.score needle ∈
        heading.names.map (fun name => matchScore name.toList needle) ∧
      ∀ score ∈ heading.names.map (fun name => matchScore name.toList needle),
        score ≤ heading.score needle := by
    cases heading with
    | field f => exact foldl_better _ _
    | sort => exact foldl_better _ []
  exact ⟨List.mem_map.mp hbest.1, fun score hscore => hbest.2 score (List.mem_map.mpr hscore)⟩

/-! ## Suggestions -/

/-- Whether a heading is passed over: it is in use or does not score. -/
def Heading.isSkipped (schema : Schema) (query : String) (needle : List Char)
    (heading : Heading) : Bool :=
  (usedFields schema query).contains heading.name || decide (heading.score needle ≤ 0)

/-- The headings that are not passed over. -/
def remaining (schema : Schema) (query : String) (needle : List Char) : List Heading :=
  (headings schema).filter (!Heading.isSkipped schema query needle ·)

theorem mem_remaining_iff {schema : Schema} {query : String} {needle : List Char}
    {heading : Heading} :
    heading ∈ remaining schema query needle ↔
      heading ∈ headings schema ∧ (usedFields schema query).contains heading.name = false ∧
        0 < heading.score needle := by
  rw [remaining, List.mem_filter, Heading.isSkipped, Bool.not_eq_true', Bool.or_eq_false_iff,
    decide_eq_false_iff_not, not_le]

section

variable (schema : Schema) (query : String) (dash : String) (needle : List Char)

/-- The fields that are not passed over are suggested. -/
theorem filterMap_fields_eq :
    (schema.fields.filterMap fun field =>
      if Heading.isSkipped schema query needle (.field field) then none
      else some (Heading.suggestion dash (fieldScore field needle) (.field field))) =
    ((schema.fields.map Heading.field).filter (!Heading.isSkipped schema query needle ·)).map
      fun heading => heading.suggestion dash (heading.score needle) := by
  rw [List.filter_map, List.map_map, ← List.filterMap_eq_map, List.filterMap_filter]
  refine List.filterMap_congr fun field _ => ?_
  simp only [Function.comp_apply]
  cases Heading.isSkipped schema query needle (.field field) <;> rfl

/-- Behind the fields, the sort order is suggested if it is not passed over. -/
theorem ite_sort_eq (fields : List Suggestion) :
    (if Heading.isSkipped schema query needle .sort then fields
      else fields ++ [Heading.suggestion dash (Heading.score needle .sort) .sort]) =
    fields ++ ([Heading.sort].filter (!Heading.isSkipped schema query needle ·)).map
      fun heading => heading.suggestion dash (heading.score needle) := by
  rw [List.filter_singleton]
  cases Heading.isSkipped schema query needle .sort with
  | false => rfl
  | true => exact (List.append_nil fields).symm

/-- The headings that are not passed over are suggested, in the order of the table. -/
theorem fieldSuggestions_eq (word : List Char) :
    fieldSuggestions schema word query =
      (remaining schema query (needleOf word)).map
        fun heading => heading.suggestion (dashOf word) (heading.score (needleOf word)) := by
  rw [remaining, headings, List.filter_append, List.map_append, ← filterMap_fields_eq,
    ← ite_sort_eq]
  unfold fieldSuggestions
  dsimp only
  -- the cases of `dashOf` and `needleOf`
  split
  · rfl
  · next hdash =>
    have hparts : dashOf word = "" ∧ needleOf word = word := by
      unfold dashOf needleOf
      split
      · exact absurd rfl (hdash _)
      · exact ⟨rfl, rfl⟩
    rw [hparts.1, hparts.2]
    rfl

end

end IssueSearch.Completion
