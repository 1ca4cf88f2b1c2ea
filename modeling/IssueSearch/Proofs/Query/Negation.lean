import IssueSearch.Proofs.Query.Removal

/-!
# Negated filters

A negated filter on a field is checked and has no other part in its query: a blank in
its place leaves the same search.  A negated order is the order of the results all the
same, unless another one is asked for behind it.

* `sort?_effect_iff`: the tokens that ask for an order;
* `sort_ofTokens_split`: the order of a query, around one of its tokens;
* `negated_unapplied`: a query with a blank in place of a negated filter.
-/

namespace IssueSearch

open Text (isBlank)
open Time (Instant)

/-! ## The order of a query -/

/-- The order that a token asks for is the one that its value names. -/
theorem sort?_effect_iff {token : Token} {schema : Schema} {now : Instant} {order : SortOrder} :
    (token.effect schema now).sort? = some order ↔
      token.kind = .sort ∧ sortOrder? token.value.toList = .ok (some order) := by
  constructor
  · intro h
    rcases effect_cases token schema now with hidle | ⟨_, _, hword⟩ |
      ⟨hkind, other, hother, hsort⟩ | ⟨_, _, field, _, clause, _, hclause⟩
    · rw [hidle.parts.2.2] at h
      cases h
    · rw [hword] at h
      cases h
    · rw [hsort] at h
      cases h
      exact ⟨hkind, hother⟩
    · rw [hclause] at h
      cases clause <;> cases h
  · rintro ⟨hkind, horder⟩
    simp [Token.effect, Token.sortEffect, hkind, horder, Effect.sort?]

/-- A row of tokens has no order if none of them asks for one. -/
theorem sort_ofTokens_eq_none_iff (schema : Schema) (now : Instant) (tokens : List Token) :
    (Query.ofTokens schema now tokens).sort = none ↔
      ∀ token ∈ tokens, (token.effect schema now).sort? = none := by
  simp [Query.ofTokens]

/-- The order is the one that is asked for last: behind a token, by the token, or in
front of it. -/
theorem sort_ofTokens_split (schema : Schema) (now : Instant) (before after : List Token)
    (token : Token) :
    (Query.ofTokens schema now (before ++ token :: after)).sort =
      (Query.ofTokens schema now after).sort.or
        ((token.effect schema now).sort?.or (Query.ofTokens schema now before).sort) := by
  have hsingle : (Query.ofTokens schema now [token]).sort = (token.effect schema now).sort? := by
    cases hsort : (token.effect schema now).sort? <;> simp [Query.ofTokens, hsort]
  rw [ofTokens_append, ← List.singleton_append, ofTokens_append]
  simp only [Query.followedBy, hsingle, Option.or_assoc]

/-- Tokens that start behind a token are those of the rest of the query. -/
theorem mem_after_of_split {schema : Schema} {query : String} {before after : List Token}
    {token later : Token} (h : schema.tokenize query = before ++ token :: after)
    (hmem : later ∈ schema.tokenize query) (hbehind : token.endIndex ≤ later.startIndex) :
    later ∈ after := by
  obtain ⟨hpos, hfront, _⟩ := ordered_of_split h
  rw [h] at hmem
  rcases List.mem_append.mp hmem with hbefore | hmem
  · have hle := hfront later hbefore
    omega
  · rcases List.mem_cons.mp hmem with rfl | hafter
    · omega
    · exact hafter

/-- The order of a query is the one that a token asks for: no later token asks for
another. -/
def Query.IsOrderedBy (parsed : Query) (token : Token) (order : SortOrder) : Prop :=
  token.kind = .sort ∧ sortOrder? token.value.toList = .ok (some order) ∧
    ∀ later ∈ parsed.tokens, token.endIndex ≤ later.startIndex → later.kind = .sort →
      ∀ other, sortOrder? later.value.toList ≠ .ok (some other)

/-- A query is ordered by a token if the token asks for an order and nothing behind it
does. -/
theorem isOrderedBy_iff {schema : Schema} {now : Instant} {query : String}
    {before after : List Token} {token : Token} {order : SortOrder}
    (h : schema.tokenize query = before ++ token :: after) :
    (schema.parse now query).IsOrderedBy token order ↔
      (token.effect schema now).sort? = some order ∧
        (Query.ofTokens schema now after).sort = none := by
  obtain ⟨_, _, hbehind⟩ := ordered_of_split h
  rw [sort?_effect_iff, sort_ofTokens_eq_none_iff, Query.IsOrderedBy, and_assoc]
  refine and_congr_right fun _ => and_congr_right fun _ => ?_
  constructor
  · intro hlater token htoken
    rw [Option.eq_none_iff_forall_ne_some]
    intro other hother
    obtain ⟨hkind, hasks⟩ := sort?_effect_iff.mp hother
    refine hlater token ?_ (hbehind token htoken) hkind other hasks
    show token ∈ schema.tokenize query
    rw [h]
    exact List.mem_append_right _ (List.mem_cons_of_mem _ htoken)
  · intro hnone later hlater hplace hkind other hasks
    have hsort := hnone later (mem_after_of_split h hlater hplace)
    rw [sort?_effect_iff.mpr ⟨hkind, hasks⟩] at hsort
    cases hsort

/-! ## A blank in place of a filter -/

/-- The characters of the text that stands for a filter are blank. -/
theorem isBlank_of_mem_space : ∀ c ∈ " ".toList, isBlank c = true :=
  List.forall_mem_singleton.mpr (by decide)

/-- The order of a query is the one that a token decides, and a blank in place of any
other token leaves it. -/
theorem sort_replaceIn (schema : Schema) (now : Instant) (query : String) {token : Token}
    (hmem : token ∈ schema.tokenize query) :
    let parsed := schema.parse now query
    (∀ order, parsed.IsOrderedBy token order → parsed.sort = some order) ∧
      ((∀ order, ¬parsed.IsOrderedBy token order) →
        (schema.parse now (token.replaceIn query " ")).sort = parsed.sort) := by
  obtain ⟨before, after, _, _, _, _, htokens⟩ := exists_split schema query hmem
  have hparsed : (schema.parse now query).sort =
      (Query.ofTokens schema now (scanFrom schema token.endIndex after)).sort.or
        ((token.effect schema now).sort?.or
          (Query.ofTokens schema now (scanFrom schema 0 before)).sort) := by
    rw [Schema.parse, htokens, sort_ofTokens_split]
  have hblanked : (schema.parse now (token.replaceIn query " ")).sort =
      (Query.ofTokens schema now (scanFrom schema token.endIndex after)).sort.or
        (Query.ofTokens schema now (scanFrom schema 0 before)).sort := by
    rw [parse_replaceIn now " " isBlank_of_mem_space hmem, filter_ne_of_split htokens,
      ofTokens_append]
    rfl
  intro parsed
  refine ⟨fun order horder => ?_, fun hnone => ?_⟩
  · obtain ⟨hasks, hafter⟩ := (isOrderedBy_iff htokens).mp horder
    rw [hparsed, hafter, hasks]
    rfl
  · rw [hblanked, hparsed]
    cases hafter : (Query.ofTokens schema now (scanFrom schema token.endIndex after)).sort with
    | some order => rfl
    | none =>
      cases hasks : (token.effect schema now).sort? with
      | none => rfl
      | some order => exact absurd ((isOrderedBy_iff htokens).mpr ⟨hasks, hafter⟩) (hnone order)

/-- A blank in place of a negated filter leaves the filters and the text.  It leaves the
order too, unless the filter itself is the last order that is asked for: then this order
holds, although it is negated. -/
theorem negated_unapplied (schema : Schema) (now : Instant) (query : String) (token : Token)
    (hmem : token ∈ schema.tokenize query) (hfilter : token.isFilter = true)
    (hnegated : token.isNegation = true) :
    let parsed := schema.parse now query
    let blanked := schema.parse now (token.replaceIn query " ")
    blanked.filters = parsed.filters ∧ blanked.freeText = parsed.freeText ∧
      (token.kind = .field → blanked.sort = parsed.sort) ∧
      (∀ order, parsed.IsOrderedBy token order → parsed.sort = some order) ∧
      (blanked.sort = parsed.sort ↔
        ∀ order, parsed.IsOrderedBy token order → blanked.sort = some order) := by
  obtain ⟨hordered, hothers⟩ := sort_replaceIn schema now query hmem
  have hparts : (token.effect schema now).word? = none ∧
      (token.effect schema now).clause? = none := by
    -- a filter on a field tests its negation, a sort order does not
    rcases Bool.or_eq_true_iff.mp hfilter with hkind | hkind
    · have hidle : (token.effect schema now).IsIdle :=
        isIdle_of_isNegation (beq_iff_eq.mp hkind) hnegated
      exact ⟨hidle.parts.1, hidle.parts.2.1⟩
    · exact parts_of_sort (beq_iff_eq.mp hkind)
  obtain ⟨hfreeText, hfilters⟩ := filters_filter_ne hparts.1 hparts.2 (schema.tokenize query)
  have hblanked := parse_replaceIn now " " isBlank_of_mem_space hmem
  intro parsed blanked
  refine ⟨?_, ?_, fun hkind => ?_, hordered, ?_⟩
  · exact (congrArg Query.filters hblanked).trans hfilters
  · exact (congrArg Query.freeText hblanked).trans hfreeText
  · refine hothers fun order horder => ?_
    have hsort := horder.1
    rw [hkind] at hsort
    cases hsort
  · constructor
    · intro hsame order horder
      rw [hsame, hordered order horder]
    · intro hsame
      by_cases hdecides : ∃ order, parsed.IsOrderedBy token order
      · obtain ⟨order, horder⟩ := hdecides
        rw [hsame order horder, hordered order horder]
      · exact hothers fun order horder => hdecides ⟨order, horder⟩

/-- A negated order with another order behind it. -/
theorem negated_unapplied_before_order :
    let query := "count:>5 -sort:count sort:users:asc"
    let token : Token :=
      ⟨.sort, some "sort", some .eq, "count", true, "-sort:count", 9, 20⟩
    let parsed := Schema.standard.parse ⟨0, 0⟩ query
    let blanked := Schema.standard.parse ⟨0, 0⟩ (token.replaceIn query " ")
    (token ∈ Schema.standard.tokenize query ∧ token.isFilter = true ∧
      token.isNegation = true) ∧
    blanked.filters = parsed.filters ∧ blanked.freeText = parsed.freeText ∧
      (token.kind = .field → blanked.sort = parsed.sort) ∧
      (∀ order, parsed.IsOrderedBy token order → parsed.sort = some order) ∧
      (blanked.sort = parsed.sort ↔
        ∀ order, parsed.IsOrderedBy token order → blanked.sort = some order) := by
  intro query token parsed blanked
  have hmem : token ∈ Schema.standard.tokenize query := by decide +kernel
  exact ⟨⟨hmem, rfl, rfl⟩,
    negated_unapplied Schema.standard ⟨0, 0⟩ query token hmem rfl rfl⟩

/-- A negated order is applied, although a blank in its place leaves no order. -/
theorem negated_order_applied :
    let query := "-sort:count"
    let token : Token :=
      ⟨.sort, some "sort", some .eq, "count", true, "-sort:count", 0, 11⟩
    (token ∈ Schema.standard.tokenize query ∧ token.isFilter = true ∧
      token.isNegation = true) ∧
      (Schema.standard.parse ⟨0, 0⟩ query).sort = some ⟨"count", .desc⟩ ∧
      (Schema.standard.parse ⟨0, 0⟩ (token.replaceIn query " ")).sort = none := by
  decide +kernel

end IssueSearch
