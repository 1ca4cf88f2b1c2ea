import IssueSearch.Proofs.Query.Append
import IssueSearch.Proofs.Token.Removal

/-!
# Tokens that a query can do without

A token that is rejected or passed over can be taken out of its query, and what is left
means the same.

* `filters_filter_ne`, `sort_filter_ne`, `errors_filter_ne`: the tokens of a query
  without one of them;
* `parse_replaceIn`: a query with blanks in place of a token;
* `Query.IsInert`: the keyword `OR`, filters without a value, and rejected tokens;
* `inert_isolated`: a query without the text of an inert token.
-/

namespace IssueSearch

open Text (isBlank)
open Time (Instant)

section

variable {schema : Schema} {now : Instant} {query : String} {token : Token}

/-! ## Rows of tokens -/

/-- What a function drops makes no difference to what it keeps. -/
theorem filterMap_filter_ne {β : Type} {f : Token → Option β} (h : f token = none)
    (tokens : List Token) : (tokens.filter (· ≠ token)).filterMap f = tokens.filterMap f := by
  rw [List.filterMap_filter]
  refine congrArg (List.filterMap · tokens) (funext fun other => ?_)
  by_cases hother : other = token
  · simp [hother, h]
  · simp [hother]

/-- A token that contributes no word and no clause has no part in the text and the
filters. -/
theorem filters_filter_ne (hword : (token.effect schema now).word? = none)
    (hclause : (token.effect schema now).clause? = none) (tokens : List Token) :
    let others := Query.ofTokens schema now (tokens.filter (· ≠ token))
    let whole := Query.ofTokens schema now tokens
    others.freeText = whole.freeText ∧ others.filters = whole.filters := by
  have hwords := filterMap_filter_ne
    (f := fun other => (other.effect schema now).word?) hword tokens
  have hclauses := filterMap_filter_ne
    (f := fun other => (other.effect schema now).clause?) hclause tokens
  simp only [Query.ofTokens, List.filterMap_map, Function.comp_def, hwords, hclauses, and_self]

/-- A token that asks for no order has no part in the order. -/
theorem sort_filter_ne (hsort : (token.effect schema now).sort? = none) (tokens : List Token) :
    (Query.ofTokens schema now (tokens.filter (· ≠ token))).sort =
      (Query.ofTokens schema now tokens).sort := by
  have hsorts := filterMap_filter_ne
    (f := fun other => (other.effect schema now).sort?) hsort tokens
  simp only [Query.ofTokens, List.filterMap_map, Function.comp_def, hsorts]

/-- With blanks in place of a token, or nothing, a query means what the other tokens
mean. -/
theorem parse_replaceIn (now : Instant) (gap : String)
    (hgap : ∀ c ∈ gap.toList, isBlank c = true) (hmem : token ∈ schema.tokenize query) :
    schema.parse now (token.replaceIn query gap) =
      (Query.ofTokens schema now ((schema.tokenize query).filter (· ≠ token))).move
        (token.shift gap.utf8ByteSize) := by
  rw [Schema.parse, tokenize_replaceIn schema query gap hgap hmem, ofTokens_move]

/-! ## Diagnostics -/

/-- Whether a diagnostic is about the place of a token. -/
def Diagnostic.isAt (token : Token) (diagnostic : Diagnostic) : Bool :=
  diagnostic.startIndex == token.startIndex && diagnostic.endIndex == token.endIndex

theorem Diagnostic.isAt_iff {error : Diagnostic} :
    error.isAt token = true ↔
      error.startIndex = token.startIndex ∧ error.endIndex = token.endIndex := by
  simp [isAt]

/-- The diagnostic of a token states why it is rejected, at its place. -/
theorem diagnostic?_eq_some {error : Diagnostic} (h : token.diagnostic? schema now = some error) :
    token.effect schema now = .reject error.cause ∧ error.isAt token = true := by
  obtain ⟨cause, hcause, rfl⟩ := Option.map_eq_some_iff.mp h
  exact ⟨Effect.cause?_eq_some_iff.mp hcause, Diagnostic.isAt_iff.mpr ⟨rfl, rfl⟩⟩

/-- Every diagnostic of a query is about one of its tokens. -/
theorem exists_of_mem_errors {error : Diagnostic} (h : error ∈ (schema.parse now query).errors) :
    ∃ token ∈ schema.tokenize query, token.diagnostic? schema now = some error :=
  List.mem_filterMap.mp h

/-- A diagnostic at the place of a token is about that token. -/
theorem diagnostic?_of_isAt {error : Diagnostic} (hmem : token ∈ schema.tokenize query)
    (herror : error ∈ (schema.parse now query).errors) (hat : error.isAt token = true) :
    token.diagnostic? schema now = some error := by
  obtain ⟨other, hother, hdiagnostic⟩ := exists_of_mem_errors herror
  have hplace := Diagnostic.isAt_iff.mp (diagnostic?_eq_some hdiagnostic).2
  have hstart := (Diagnostic.isAt_iff.mp hat).1
  have hsame : other = token :=
    eq_of_startIndex_eq schema query hother hmem (hplace.1.symm.trans hstart)
  rwa [hsame] at hdiagnostic

/-- Diagnostics stand in the order of their places, which do not overlap. -/
theorem pairwise_errors (schema : Schema) (now : Instant) (query : String) :
    (schema.parse now query).errors.Pairwise fun s t =>
      s.startIndex < t.startIndex ∧ s.endIndex ≤ t.startIndex := by
  refine (pairwise_tokenize schema query).filterMap _ fun s t hst error herror other hother => ?_
  have hfirst := Diagnostic.isAt_iff.mp (diagnostic?_eq_some herror).2
  have hsecond := Diagnostic.isAt_iff.mp (diagnostic?_eq_some hother).2
  omega

/-- Without a token, a query has the other diagnostics. -/
theorem errors_filter_ne (now : Instant) (hmem : token ∈ schema.tokenize query) :
    (Query.ofTokens schema now ((schema.tokenize query).filter (· ≠ token))).errors =
      (schema.parse now query).errors.filter (!·.isAt token) := by
  have hleft : (Query.ofTokens schema now ((schema.tokenize query).filter (· ≠ token))).errors =
      ((schema.tokenize query).filter (· ≠ token)).filterMap (·.diagnostic? schema now) := rfl
  have hright : (schema.parse now query).errors =
      (schema.tokenize query).filterMap (·.diagnostic? schema now) := rfl
  rw [hleft, hright, List.filterMap_filter, List.filter_filterMap]
  refine List.filterMap_congr fun other hother => ?_
  cases hdiagnostic : other.diagnostic? schema now with
  | none => simp
  | some error =>
    have hat := (diagnostic?_eq_some hdiagnostic).2
    by_cases hsame : other = token
    · rw [hsame] at hat
      simp [hsame, hat, Option.filter]
    · have hothers : error.isAt token = false := by
        rw [Bool.eq_false_iff]
        intro htoken
        have hstart := (Diagnostic.isAt_iff.mp hat).1.symm.trans (Diagnostic.isAt_iff.mp htoken).1
        exact hsame (eq_of_startIndex_eq schema query hother hmem hstart)
      simp [hsame, hothers, Option.filter]

/-- A token has one diagnostic at most. -/
theorem length_errors_at_le_one (schema : Schema) (now : Instant) (query : String)
    (token : Token) : ((schema.parse now query).errors.filter (·.isAt token)).length ≤ 1 := by
  have hplace : ∀ error ∈ (schema.parse now query).errors.filter (·.isAt token),
      error.startIndex = token.startIndex := by
    intro error hmem
    exact (Diagnostic.isAt_iff.mp (List.mem_filter.mp hmem).2).1
  refine length_le_one_of_pairwise ((pairwise_errors schema now query).filter _) ?_
  intro first hfirst second hsecond
  have hsame := (hplace first hfirst).trans (hplace second hsecond).symm
  omega

/-! ## Inert tokens -/

/-- A token that says nothing about the search: the keyword `OR`, a filter without a
value, or a token at which a problem is reported. -/
inductive Query.IsInert (parsed : Query) (token : Token) : Prop where
  | keyword (hkind : token.kind = .operator)
  | blank (hfilter : token.isFilter = true) (hvalue : Text.trim token.value.toList = [])
  | rejected (error : Diagnostic) (hmem : error ∈ parsed.errors) (hat : error.isAt token = true)

/-- Inert tokens are idle. -/
theorem Query.IsInert.isIdle (hmem : token ∈ schema.tokenize query)
    (h : (schema.parse now query).IsInert token) : (token.effect schema now).IsIdle := by
  cases h with
  | keyword hkind => exact isIdle_of_operator hkind
  | blank hfilter hvalue => exact isIdle_of_blank_value hfilter hvalue
  | rejected error herror hat =>
    exact Or.inr ⟨error.cause, (diagnostic?_eq_some (diagnostic?_of_isAt hmem herror hat)).1⟩

/-- Without an inert token, the other tokens and their diagnostics are left, and they
mean the same. -/
theorem ofTokens_filter_ne (hmem : token ∈ schema.tokenize query)
    (h : (schema.parse now query).IsInert token) :
    let parsed := schema.parse now query
    Query.ofTokens schema now ((schema.tokenize query).filter (· ≠ token)) =
      { parsed with
        tokens := (schema.tokenize query).filter (· ≠ token)
        errors := parsed.errors.filter (!·.isAt token) } := by
  obtain ⟨hword, hclause, hsort⟩ := (h.isIdle hmem).parts
  obtain ⟨hfreeText, hfilters⟩ := filters_filter_ne hword hclause (schema.tokenize query)
  have hsorts := sort_filter_ne hsort (schema.tokenize query)
  have herrors := errors_filter_ne now hmem
  exact (Query.mk.injEq ..).mpr ⟨rfl, hfreeText, hfilters, hsorts, herrors⟩

end

/-- An inert token is isolated.  Without its text the other tokens are left, those
behind it further in front, and with them their diagnostics; text, filters and order
are the same.  Every diagnostic is about one token, at its place, and each token has at
most one; they stand in the order of their places. -/
theorem inert_isolated (schema : Schema) (now : Instant) (query : String) :
    let parsed := schema.parse now query
    (∀ token ∈ parsed.tokens, parsed.IsInert token →
      schema.parse now (token.replaceIn query "") =
        { parsed with
          tokens := (parsed.tokens.filter (· ≠ token)).map (Token.move (token.shift 0))
          errors := (parsed.errors.filter (!·.isAt token)).map
            (Diagnostic.move (token.shift 0)) }) ∧
    (∀ error ∈ parsed.errors, ∃ token ∈ parsed.tokens,
      error.isAt token = true ∧ token.effect schema now = .reject error.cause) ∧
    (∀ token ∈ parsed.tokens, (parsed.errors.filter (·.isAt token)).length ≤ 1) ∧
    parsed.errors.Pairwise fun s t => s.startIndex < t.startIndex ∧ s.endIndex ≤ t.startIndex := by
  intro parsed
  refine ⟨fun token hmem hinert => ?_, fun error herror => ?_, fun token _ => ?_, ?_⟩
  · have hremoved := parse_replaceIn now "" (by simp) hmem
    rw [ofTokens_filter_ne hmem hinert] at hremoved
    exact hremoved
  · obtain ⟨token, hmem, hdiagnostic⟩ := exists_of_mem_errors herror
    obtain ⟨heffect, hat⟩ := diagnostic?_eq_some hdiagnostic
    exact ⟨token, hmem, hat, heffect⟩
  · exact length_errors_at_le_one schema now query token
  · exact pairwise_errors schema now query

/-- A rejected value between two phrases, with no blank on either side. -/
theorem inert_isolated_between_phrases :
    let query := "\"a\"level:\"x\"\"b\" is:ignored"
    let token : Token := ⟨.field, some "level", some .eq, "x", false, "level:\"x\"", 3, 12⟩
    let parsed := Schema.standard.parse ⟨0, 0⟩ query
    token ∈ parsed.tokens ∧ parsed.IsInert token ∧
      Schema.standard.parse ⟨0, 0⟩ (token.replaceIn query "") =
        { parsed with
          tokens := (parsed.tokens.filter (· ≠ token)).map (Token.move (token.shift 0))
          errors := (parsed.errors.filter (!·.isAt token)).map
            (Diagnostic.move (token.shift 0)) } := by
  intro query token parsed
  have hmem : token ∈ parsed.tokens := by decide +kernel
  have herror : parsed.errors.any (·.isAt token) = true := by decide +kernel
  obtain ⟨error, hreported, hat⟩ := List.any_eq_true.mp herror
  have hinert : parsed.IsInert token := .rejected error hreported hat
  exact ⟨hmem, hinert, (inert_isolated Schema.standard ⟨0, 0⟩ query).1 token hmem hinert⟩

end IssueSearch
