import IssueSearch.Proofs.Canonical.RoundTrip
import IssueSearch.Proofs.Token.Renaming

/-!
# Names make no difference

A filter means the same under each name of its field, in any letter case, and a sort order
under any spelling of its keyword.

* `effect_respelled`: what a filter contributes does not depend on how it is spelled;
* `parse_respelled`: the meaning of a query under another name.
-/

namespace IssueSearch

open Time (Instant)

/-- The characters of a filter have no part in what it contributes, and its place has
none. -/
theorem effect_respelled {schema : Schema} {now : Instant} {token : Token} (raw : String)
    (hfilter : token.isFilter = true) (other : Token) :
    (token.respelled raw other).effect schema now = other.effect schema now := by
  by_cases hother : other = token
  · subst hother
    have hclause : ∀ field : Field, field.clause? (other.respelled raw other) now =
        field.clause? other now := fun field => clause?_congr field now rfl rfl
    have hkind : other.kind = .field ∨ other.kind = .sort := by
      simpa [Token.isFilter] using hfilter
    have hsame : (other.respelled raw other).kind = other.kind := rfl
    rcases hkind with hkind | hkind
    · unfold Token.effect Token.fieldEffect
      simp only [hclause, hsame, hkind]
      rfl
    · unfold Token.effect Token.sortEffect
      simp only [hsame, hkind]
      rfl
  · rw [respelled_of_ne raw hother, effect_move]

/-- A filter is spelled with a name that denotes the order or a field.  Under any other name
for the same, in any letter case, it is the same filter: the query keeps its text, its
filters and its order, and with them its canonical form at all times.  The tokens and the
diagnostics are the same at the places where they then stand; only the characters of the
filter are other ones. -/
theorem parse_respelled (schema : Schema) (now : Instant) (query : String) (token : Token)
    (hmem : token ∈ schema.tokenize query) (hfilter : token.isFilter = true) :
    (∃ written body, isName written.toList = true ∧
      (schema.resolve? written.toList).isSome = true ∧ token.raw = token.spelled written body) ∧
    ∀ written body name, isName written.toList = true → token.raw = token.spelled written body →
      isName name.toList = true →
      schema.resolve? name.toList = schema.resolve? written.toList →
      let raw := token.spelled name body
      let parsed := schema.parse now query
      let renamed := schema.parse now (token.replaceIn query raw)
      renamed = { parsed with
        tokens := parsed.tokens.map (token.respelled raw)
        errors := parsed.errors.map (Diagnostic.move (token.shift raw.utf8ByteSize)) } ∧
      ∀ clock again, renamed.canonical again = parsed.canonical clock := by
  obtain ⟨found, rest, hfound, hresolve, hspelled, htokens⟩ :=
    tokenize_respelled schema query hmem hfilter
  refine ⟨⟨found, rest, hfound, hresolve, hspelled⟩, ?_⟩
  intro written body name hwritten hraw hname hsame raw parsed renamed
  obtain ⟨rfl, rfl⟩ := spelled_inj hfound hwritten (hspelled.symm.trans hraw)
  have hrenamed : renamed = { parsed with
      tokens := parsed.tokens.map (token.respelled raw)
      errors := parsed.errors.map (Diagnostic.move (token.shift raw.utf8ByteSize)) } := by
    show Query.ofTokens schema now (schema.tokenize (token.replaceIn query raw)) = _
    rw [htokens name hname hsame]
    exact ofTokens_map fun other _ => ⟨effect_respelled raw hfilter other, rfl, rfl⟩
  refine ⟨hrenamed, fun clock again => ?_⟩
  rw [hrenamed]
  exact canonical_clock again clock _ _

/-- A negated filter with a rejected value directly behind a phrase, under an alias in capitals
and under the name of its field. -/
theorem parse_respelled_behind_phrase :
    let query := "\"a\"-STATUS:!\"x\" sort:count b"
    let token : Token :=
      ⟨.field, some "is", some .ne, "x", true, "-STATUS:!\"x\"", 3, 15⟩
    let raw := token.spelled "is" "!\"x\""
    let parsed := Schema.standard.parse ⟨0, 0⟩ query
    let renamed := Schema.standard.parse ⟨0, 0⟩ (token.replaceIn query raw)
    (token ∈ Schema.standard.tokenize query ∧ token.isFilter = true ∧
      isName "STATUS".toList = true ∧ token.raw = token.spelled "STATUS" "!\"x\"" ∧
      isName "is".toList = true ∧
      Schema.standard.resolve? "is".toList = Schema.standard.resolve? "STATUS".toList) ∧
    token.replaceIn query raw = "\"a\"-is:!\"x\" sort:count b" ∧
    renamed = { parsed with
      tokens := parsed.tokens.map (token.respelled raw)
      errors := parsed.errors.map (Diagnostic.move (token.shift raw.utf8ByteSize)) } ∧
    ∀ clock again, renamed.canonical again = parsed.canonical clock := by
  intro query token raw parsed renamed
  have hmem : token ∈ Schema.standard.tokenize query := by decide +kernel
  have hraw : token.raw = token.spelled "STATUS" "!\"x\"" := by decide
  have hsame : Schema.standard.resolve? "is".toList =
      Schema.standard.resolve? "STATUS".toList := by decide
  refine ⟨⟨hmem, rfl, by decide, hraw, by decide, hsame⟩, by decide +kernel, ?_⟩
  exact (parse_respelled Schema.standard ⟨0, 0⟩ query token hmem rfl).2 "STATUS" "!\"x\"" "is"
    (by decide) hraw (by decide) hsame

end IssueSearch
