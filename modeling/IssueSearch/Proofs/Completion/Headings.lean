import IssueSearch.Proofs.Completion.Agreement
import IssueSearch.Proofs.Completion.Ranking
import IssueSearch.Proofs.Token.Grammar

/-!
# Names for a word

A word that is no filter may be the name of one: of a field that the query does not filter by
yet, or of the sort order.  All headings that fit are suggested, the best first, and if none
fits, presets are.

* `Heading.IsFree`, `Heading.Fits`, `Heading.IsOffered`: the headings that are suggested;
* `isFree_iff`, `score_pos_iff`, `isOffered_iff`: these are the ones that are not passed over;
* `filter_suggest`: all that is suggested apart from recent queries;
* `suggest_headings`: the ranked headings, or else the presets.
-/

namespace IssueSearch.Completion

open Time (Instant)

/-! ## What is offered -/

namespace Heading

/-- The query does not filter by the field, or does not order its results. -/
def IsFree (now : Instant) (query : String) : Heading → Prop
  | field f => (Schema.standard.parse now query).mentions f.name = false
  | sort => ∀ token ∈ Schema.standard.tokenize query, token.kind ≠ .sort

/-- What has been typed stands in one of the names: its characters in order, with any others
between them, in any letter case. -/
def Fits (needle : List Char) (heading : Heading) : Prop :=
  ∃ name ∈ heading.names, (Text.lowercase needle).Sublist (Text.lowercase name.toList)

/-- A heading that is suggested. -/
def IsOffered (now : Instant) (query : String) (needle : List Char) (heading : Heading) : Prop :=
  heading ∈ headings .standard ∧ heading.IsFree now query ∧ heading.Fits needle

end Heading

/-! ## What fits and is not in use -/

/-- A heading scores if, and only if, it fits. -/
theorem score_pos_iff {needle : List Char} {heading : Heading} :
    0 < heading.score needle ↔ heading.Fits needle := by
  obtain ⟨⟨best, hmem, hbest⟩, hle⟩ := isBest_score needle heading
  constructor
  · intro hpos
    exact ⟨best, hmem, matchScore_pos_iff.mp (hbest ▸ hpos)⟩
  · intro ⟨name, hname, hsub⟩
    exact lt_of_lt_of_le (matchScore_pos_iff.mpr hsub) (hle ⟨name, hname, rfl⟩)

/-- The fields in use are those that the query filters by. -/
theorem contains_usedFields (schema : Schema) (now : Instant) (query name : String) :
    (usedFields schema query).contains name = (schema.parse now query).mentions name := by
  have htokens : (schema.parse now query).tokens = schema.tokenize query := rfl
  rw [Bool.eq_iff_iff, List.contains_iff_mem, usedFields, List.mem_filterMap, Query.mentions,
    htokens, List.any_eq_true]
  refine exists_congr fun token => and_congr_right fun _ => ?_
  by_cases hfilter : token.isFilter = true <;> simp [hfilter]

/-- A filter of the standard table is on the sort keyword if, and only if, it is a sort
order. -/
theorem field_eq_sortKeyword_iff {query : String} {token : Token}
    (h : token ∈ Schema.standard.tokenize query) :
    (token.isFilter = true ∧ token.field = some sortKeyword) ↔ token.kind = .sort := by
  -- only the canonical names count: a filter by another name has the one of its field
  have hother : ∀ field ∈ Schema.standard.fields, field.name ≠ sortKeyword := by
    decide
  obtain ⟨after, hwritten⟩ := exists_isWritten h
  constructor
  · rintro ⟨hfilter, hfield⟩
    obtain ⟨name, _, _, hparts⟩ := hwritten.filter hfilter
    rcases hparts.denotes with ⟨_, hkind, _⟩ | ⟨_, _, field, hlookup, hname⟩
    · exact hkind
    · rw [hname] at hfield
      exact absurd (Option.some.inj hfield) (hother field (mem_of_lookup hlookup))
  · intro hkind
    have hfilter : token.isFilter = true := by simp [Token.isFilter, hkind]
    obtain ⟨name, _, _, hparts⟩ := hwritten.filter hfilter
    rcases hparts.denotes with ⟨_, _, hfield⟩ | ⟨_, hother, _⟩
    · exact ⟨hfilter, hfield⟩
    · rw [hkind] at hother
      cases hother

/-- A heading is free if, and only if, its name is not in use. -/
theorem isFree_iff {now : Instant} {query : String} {heading : Heading} :
    heading.IsFree now query ↔
      (usedFields .standard query).contains heading.name = false := by
  cases heading with
  | field f => rw [contains_usedFields _ now, Heading.name, Heading.IsFree]
  | sort =>
    rw [← Bool.not_eq_true, List.contains_iff_mem, usedFields, List.mem_filterMap]
    constructor
    · rintro hfree ⟨token, hmem, hsome⟩
      split at hsome
      · next hfilter =>
        exact hfree token hmem ((field_eq_sortKeyword_iff hmem).mp ⟨hfilter, hsome⟩)
      · cases hsome
    · intro hnone token hmem hkind
      obtain ⟨hfilter, hfield⟩ := (field_eq_sortKeyword_iff hmem).mpr hkind
      exact hnone ⟨token, hmem, by rw [if_pos hfilter]; exact hfield⟩

/-- A heading of the standard table is offered if, and only if, it is not passed over. -/
theorem isOffered_iff {now : Instant} {query : String} {needle : List Char} {heading : Heading} :
    heading.IsOffered now query needle ↔ heading ∈ remaining .standard query needle := by
  rw [Heading.IsOffered, mem_remaining_iff, isFree_iff, score_pos_iff]

/-! ## The whole list -/

section

variable {schema : Schema} {query : String} {facets : Option Facets}

/-- Apart from recent queries, the ranked suggestions for the word under the cursor are
suggested. -/
theorem filter_suggest (hshort : IsShort schema) (cursor : Nat) (history : List String)
    (saved : List SavedSearch) (hquery : ∃ c ∈ query.toList, Text.isBlank c = false) :
    (suggest schema query cursor history saved facets).filter (·.kind ≠ .history) =
      rank (wordSuggestions schema query (wordBefore query.toList cursor) facets) := by
  have hblock := isBlock_wordSuggestions hshort query (wordBefore query.toList cursor) facets
  rw [suggest_eq_append hshort query cursor history saved facets hquery]
  generalize wordSuggestions schema query (wordBefore query.toList cursor) facets = block
    at hblock ⊢
  have hkeep : (rank block).filter (·.kind ≠ .history) = rank block :=
    List.filter_eq_self.mpr fun suggestion hmem =>
      decide_eq_true (hblock.leading suggestion (mem_rank.mp hmem)).kind_ne
  have hdrop : (falling (recentEntries query history block) 10 historySuggestion).filter
      (·.kind ≠ .history) = [] := by
    refine List.filter_eq_nil_iff.mpr fun suggestion hmem => ?_
    obtain ⟨_, _, _, rfl⟩ := exists_of_mem_falling hmem
    simp [historySuggestion]
  rw [List.filter_append, hkeep, hdrop, List.append_nil]

/-- The presets stand by falling score. -/
theorem rank_presets : rank (presets schema query) = presets schema query := by
  refine rank_of_pairwise ?_
  unfold presets preset
  dsimp only
  split_ifs <;> decide

/-- Two of the presets are suggested where their field is not in use. -/
theorem mem_presets_iff :
    ("is:unresolved" ∈ (presets schema query).map (·.value) ↔
      (usedFields schema query).contains "is" = false) ∧
    ("level:error" ∈ (presets schema query).map (·.value) ↔
      (usedFields schema query).contains "level" = false) := by
  unfold presets
  dsimp only
  generalize (usedFields schema query).contains "is" = status
  generalize (usedFields schema query).contains "level" = level
  cases status <;> cases level <;> simp [preset]

/-- A word that is no filter is suggested the headings that are not passed over, or else
presets. -/
theorem rank_wordSuggestions {word : List Char} (hword : word ≠ [])
    (hname : FilterInProgress.read? word = none) :
    rank (wordSuggestions schema query word facets) =
      if remaining schema query (needleOf word) = [] then presets schema query
      else ((remaining schema query (needleOf word)).mergeSort
        (byScore (Heading.score (needleOf word)))).map
          fun heading => heading.suggestion (dashOf word) (heading.score (needleOf word)) := by
  have hfields := fieldSuggestions_eq schema query word
  have hsome : word.isEmpty = false := by simpa using hword
  simp only [wordSuggestions, hname, hsome, hfields, Bool.false_eq_true, if_false,
    List.isEmpty_iff, List.map_eq_nil_iff]
  split
  · exact rank_presets
  -- the suggestions have the scores of their headings, and are sorted with them
  · refine (List.map_mergeSort fun a _ b _ => ?_).symm
    simp only [byScore, Heading.score_suggestion]

end

/-- The headings that are offered for what has been typed, each of them once: the best first,
and those with the same score in the order of the table. -/
structure Heading.AreRanked (now : Instant) (query : String) (needle : List Char)
    (order : List Heading) : Prop where
  nodup : order.Nodup
  mem_iff : ∀ heading, heading ∈ order ↔ heading.IsOffered now query needle
  isBest : ∀ heading ∈ order, heading.IsBest needle (heading.score needle)
  falling : order.Pairwise fun a b => b.score needle < a.score needle ∨
    (b.score needle = a.score needle ∧ [a, b].Sublist (headings .standard))

/-- The headings that are not passed over, by falling score. -/
theorem areRanked_mergeSort (now : Instant) (query : String) (needle : List Char) :
    Heading.AreRanked now query needle
      ((remaining .standard query needle).mergeSort (byScore (Heading.score needle))) where
  nodup := by
    have htable : (headings .standard).Nodup := by decide
    exact (List.mergeSort_perm _ _).nodup_iff.mpr (htable.filter _)
  mem_iff heading := by rw [List.mem_mergeSort, isOffered_iff]
  isBest heading _ := isBest_score needle heading
  falling := (pairwise_mergeSort_byScore_stable _ _).imp fun {a b} h =>
    h.imp_right fun ⟨heq, hsub⟩ => ⟨heq, hsub.trans List.filter_sublist⟩

/-- A word that is no filter may be the name of one.  Apart from recent queries, the headings
that the query does not use and that fit the word without a dash in front are suggested, each
once, the best first.  If there are none, presets are suggested: two of them only where the
query does not filter by their field. -/
theorem suggest_headings (now : Instant) (query : String) (cursor : Nat)
    (history : List String) (saved : List SavedSearch) (facets : Option Facets)
    (hword : wordBefore query.toList cursor ≠ [])
    (hname : FilterInProgress.read? (wordBefore query.toList cursor) = none) :
    let word := wordBefore query.toList cursor
    let needle := needleOf word
    let found := (suggest .standard query cursor history saved facets).filter
      (·.kind ≠ .history)
    ((∃ heading, Heading.IsOffered now query needle heading) →
      ∃ order, Heading.AreRanked now query needle order ∧
        found = order.map fun heading =>
          heading.suggestion (dashOf word) (heading.score needle)) ∧
    ((∀ heading, ¬Heading.IsOffered now query needle heading) →
      found = presets .standard query ∧
      ("is:unresolved" ∈ found.map (·.value) ↔
        (Schema.standard.parse now query).mentions "is" = false) ∧
      ("level:error" ∈ found.map (·.value) ↔
        (Schema.standard.parse now query).mentions "level" = false)) := by
  intro word needle found
  have hfound : found = rank (wordSuggestions .standard query word facets) :=
    filter_suggest isShort_standard cursor history saved
      (exists_solid_of_wordBefore_ne_nil hword)
  rw [rank_wordSuggestions hword hname] at hfound
  have hranked := areRanked_mergeSort now query needle
  constructor
  · intro ⟨heading, hoffered⟩
    rw [if_neg (List.ne_nil_of_mem (isOffered_iff.mp hoffered))] at hfound
    exact ⟨_, hranked, hfound⟩
  · intro hnone
    rw [if_pos (List.eq_nil_iff_forall_not_mem.mpr fun heading hmem =>
      hnone heading (isOffered_iff.mpr hmem))] at hfound
    rw [hfound, ← contains_usedFields, ← contains_usedFields]
    exact ⟨rfl, mem_presets_iff⟩

/-- A word that fits five fields, in capitals and behind a dash, beside filters on three of them
and a recent query.  Of the other two, the one with the shorter name is the better. -/
theorem suggest_headings_negated :
    let now : Instant := ⟨0, 0⟩
    let query := "level:error users:>1 title:x -SE"
    let history := ["level:error users:>1 title:x -sea"]
    let word := wordBefore query.toList 32
    let needle := needleOf word
    let found := (suggest .standard query 32 history [] none).filter (·.kind ≠ .history)
    (word ≠ [] ∧ FilterInProgress.read? word = none) ∧
    found.map (·.value) = ["-last_seen:", "-first_seen:"] ∧
    ∃ order, Heading.AreRanked now query needle order ∧
      found = order.map fun heading =>
        heading.suggestion (dashOf word) (heading.score needle) := by
  intro now query history word needle found
  have hword : word ≠ [] := by decide
  have hname : FilterInProgress.read? word = none := by decide
  have hsome : remaining .standard query needle ≠ [] := by decide +kernel
  obtain ⟨heading, hmem⟩ := List.exists_mem_of_ne_nil _ hsome
  have hoffered : ∃ heading, Heading.IsOffered now query needle heading :=
    ⟨heading, isOffered_iff.mpr hmem⟩
  let older := nameSuggestion "-" "first_seen" "When the issue was first seen" (70 + 2 / 10)
  let newer := nameSuggestion "-" "last_seen" "When the issue was last seen" (70 + 2 / 9)
  have hlist : wordSuggestions .standard query word none = [older, newer] := by
    decide +kernel
  have hrank : rank [older, newer] = [newer, older] := by
    norm_num [rank, List.mergeSort, List.MergeSort.Internal.splitInTwo, older, newer,
      nameSuggestion]
  have hvalues : found.map (·.value) = ["-last_seen:", "-first_seen:"] := by
    have hfound : found = rank (wordSuggestions .standard query word none) :=
      filter_suggest isShort_standard 32 history [] (exists_solid_of_wordBefore_ne_nil hword)
    rw [hfound, hlist, hrank]
    decide
  exact ⟨⟨hword, hname⟩, hvalues,
    (suggest_headings now query 32 history [] none hword hname).1 hoffered⟩

end IssueSearch.Completion
