import IssueSearch.Proofs.Filters.Overlay
import IssueSearch.Proofs.Token.Locality

/-!
# Queries one after the other

A query whose parts are kept apart by blanks means what its parts mean, one after the
other: words, tokens and diagnostics are put behind each other, and the slots of the
later part are laid over those of the earlier one.

* `Query.followedBy`: the meaning of two rows of tokens;
* `intercalate_append`: words that are joined are joined in two parts;
* `ofTokens_append`: the law for rows of tokens;
* `parse_append`: the law for texts, behind a token that has ended.
-/

namespace IssueSearch

open Text (isBlank byteLength)
open Time (Instant)

/-! ## Rows of tokens -/

/-- The meaning of one row of tokens after another. -/
def Query.followedBy (earlier later : Query) : Query where
  tokens := earlier.tokens ++ later.tokens
  freeText := joinWords earlier.freeText later.freeText
  filters := earlier.filters.overlay later.filters
  sort := later.sort.or earlier.sort
  errors := earlier.errors ++ later.errors

/-- Words that are not empty are joined to an empty text only if there are none. -/
theorem isEmpty_intercalate {words : List String} (h : ∀ word ∈ words, word ≠ "") :
    (String.intercalate " " words).isEmpty = words.isEmpty := by
  cases words with
  | nil => rfl
  | cons word words =>
    have hword : word ≠ "" := h word (by simp)
    cases words with
    | nil => simpa using hword
    | cons next words => simp [String.intercalate_cons_cons]

/-- Words are joined in two parts with a space between them. -/
theorem intercalate_append {first second : List String} (hfirst : ∀ word ∈ first, word ≠ "")
    (hsecond : ∀ word ∈ second, word ≠ "") :
    String.intercalate " " (first ++ second) =
      joinWords (String.intercalate " " first) (String.intercalate " " second) := by
  unfold joinWords
  rw [isEmpty_intercalate hfirst, isEmpty_intercalate hsecond]
  by_cases hnil : first = []
  · simp [hnil]
  · by_cases hlater : second = []
    · simp [hnil, hlater]
    · simp [hnil, hlater, String.intercalate_append_of_ne_nil]

/-- The texts of a search are joined as the free texts are. -/
theorem joinTexts_eq (earlier later : String) :
    (if (joinWords earlier later).isEmpty then none else some (joinWords earlier later)) =
      joinTexts (if earlier.isEmpty then none else some earlier)
        (if later.isEmpty then none else some later) := by
  unfold joinWords
  by_cases hearlier : earlier.isEmpty = true
  · by_cases hlater : later.isEmpty = true
    · simp [hearlier, hlater, joinTexts]
    · simp [hearlier, hlater, joinTexts]
  · by_cases hlater : later.isEmpty = true
    · simp [hearlier, hlater, joinTexts]
    · simp [hearlier, hlater, joinTexts]

/-- Rows of tokens mean what they mean one after the other. -/
theorem ofTokens_append (schema : Schema) (now : Instant) (first second : List Token) :
    Query.ofTokens schema now (first ++ second) =
      (Query.ofTokens schema now first).followedBy (Query.ofTokens schema now second) := by
  -- an empty word would leave two spaces, and a date without an end an earlier bound
  have hwords : ∀ tokens : List Token, ∀ word ∈
      (tokens.map fun token => token.effect schema now).filterMap Effect.word?, word ≠ "" := by
    intro tokens word hmem
    rw [List.filterMap_map] at hmem
    obtain ⟨token, _, hword⟩ := List.mem_filterMap.mp hmem
    exact ne_empty_of_effect_word (Effect.word?_eq_some_iff.mp hword)
  have hwindows : ∀ clause ∈ (second.map fun token => token.effect schema now).filterMap
      Effect.clause?, clause.HasWindow := by
    intro clause hmem
    rw [List.filterMap_map] at hmem
    obtain ⟨token, _, hclause⟩ := List.mem_filterMap.mp hmem
    exact hasWindow_of_effect (Effect.clause?_eq_some_iff.mp hclause)
  have hjoin := intercalate_append (hwords first) (hwords second)
  have hclauses := ofClauses_append
    ((first.map fun token => token.effect schema now).filterMap Effect.clause?) hwindows
  simp only [Query.ofTokens, Query.followedBy, List.map_append, List.filterMap_append, hjoin,
    hclauses, joinTexts_eq, List.getLast?_append]
  rfl

/-! ## Texts -/

/-- A query, a blank and another query have the tokens of the two queries, if the last
token of the first has ended. -/
theorem tokenize_append (schema : Schema) (first gap second : String) (hne : gap ≠ "")
    (hgap : ∀ c ∈ gap.toList, isBlank c = true)
    (hlast : ∀ token ∈ (schema.tokenize first).getLast?, token.isEnded = true) :
    schema.tokenize (first ++ gap ++ second) = schema.tokenize first ++
      (schema.tokenize second).map (Token.move (· + (first ++ gap).utf8ByteSize)) := by
  have hgapped : gap.toList ≠ [] := by simpa using hne
  obtain ⟨hsettled, hscan⟩ := isSettled_append_gap hgap hgapped 0 first.toList hlast
  have hplace : byteLength (first.toList ++ gap.toList) = (first ++ gap).utf8ByteSize := by
    rw [Text.byteLength_eq_utf8ByteSize, ← String.toList_append, String.ofList_toList]
  rw [Schema.tokenize, String.toList_append, String.toList_append, hsettled, hscan,
    Nat.zero_add, hplace, scanFrom_eq_move schema _ second.toList]
  rfl

/-- A query, a blank and another query mean what the two queries mean one after the
other, if the last token of the first has ended: it is no open quote and not the bare
word `OR`. -/
theorem parse_append (schema : Schema) (now : Instant) (first gap second : String)
    (hne : gap ≠ "") (hgap : ∀ c ∈ gap.toList, isBlank c = true)
    (hlast : ∀ token ∈ (schema.tokenize first).getLast?, token.isEnded = true) :
    schema.parse now (first ++ gap ++ second) =
      (schema.parse now first).followedBy
        ((schema.parse now second).move (· + (first ++ gap).utf8ByteSize)) := by
  rw [Schema.parse, tokenize_append schema first gap second hne hgap hlast, ofTokens_append,
    ofTokens_move]
  rfl

/-- Behind a phrase that is closed, a bound that is set again and a value that is there
already. -/
theorem parse_append_closed_phrase :
    (" \t" ≠ "" ∧ (∀ c ∈ " \t".toList, isBlank c = true) ∧
      ∀ token ∈ (Schema.standard.tokenize "is:resolved count:>5 \"né OR\"").getLast?,
        token.isEnded = true) ∧
      Schema.standard.parse ⟨0, 0⟩
          ("is:resolved count:>5 \"né OR\"" ++ " \t" ++ "is:ignored is:resolved count:>7") =
        (Schema.standard.parse ⟨0, 0⟩ "is:resolved count:>5 \"né OR\"").followedBy
          ((Schema.standard.parse ⟨0, 0⟩ "is:ignored is:resolved count:>7").move
            (· + 31)) := by
  have hgap : ∀ c ∈ " \t".toList, isBlank c = true :=
    List.forall_mem_cons.mpr ⟨by decide, List.forall_mem_singleton.mpr (by decide)⟩
  have hlast : ∀ token ∈
      (Schema.standard.tokenize "is:resolved count:>5 \"né OR\"").getLast?,
      token.isEnded = true := by
    decide +kernel
  refine ⟨⟨by decide, hgap, hlast⟩, ?_⟩
  exact parse_append Schema.standard ⟨0, 0⟩ "is:resolved count:>5 \"né OR\"" " \t"
    "is:ignored is:resolved count:>7" (by decide) hgap hlast

end IssueSearch
