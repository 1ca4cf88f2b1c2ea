import IssueSearch.Proofs.Token.Locality
import Mathlib.Data.List.Pairwise

/-!
# Taking a token out of a query

Blanks in place of a token, or nothing at all, leave every other token as it is; the
tokens behind it move with the text.

* `pairwise_tokenize`, `eq_of_startIndex_eq`: a token is known by its start;
* `exists_split`: a token splits its query, with `ordered_of_split` and
  `filter_ne_of_split` for the tokens on both sides;
* `Token.replaceIn`, `Token.shift`: another text in place of a token, and where the
  places behind it are then;
* `tokenize_replaceIn`: the tokens of the new query.
-/

namespace IssueSearch

open Text (isBlank byteLength)

/-! ## Tokens in front and behind -/

/-- Each token starts behind the start and not before the end of those in front. -/
theorem pairwise_tokenize (schema : Schema) (query : String) :
    (schema.tokenize query).Pairwise fun s t =>
      s.startIndex < t.startIndex ∧ s.endIndex ≤ t.startIndex := by
  refine (pairwise_scanFrom schema 0 query.toList).imp_of_mem fun {s t} hs _ hle => ?_
  have hpos := (isAt_of_mem_scanFrom schema 0 query.toList s hs).bounds
  omega

/-- A token is known by its start. -/
theorem eq_of_startIndex_eq (schema : Schema) (query : String) {s t : Token}
    (hs : s ∈ schema.tokenize query) (ht : t ∈ schema.tokenize query)
    (h : s.startIndex = t.startIndex) : s = t := by
  have hordered : (schema.tokenize query).Pairwise fun s t => s.startIndex ≠ t.startIndex :=
    (pairwise_tokenize schema query).imp fun hst => Nat.ne_of_lt hst.1
  have hsymm : Std.Symm fun s t : Token => s.startIndex ≠ t.startIndex :=
    ⟨fun _ _ => Ne.symm⟩
  by_contra hne
  exact hordered.forall hs ht hne h

/-- A token splits its query: the text, and the tokens in front of it and behind it. -/
theorem exists_split (schema : Schema) (query : String) {token : Token}
    (h : token ∈ schema.tokenize query) :
    ∃ before after, query.toList = before ++ (token.raw.toList ++ after) ∧
      IsSettled schema before ∧ token.startIndex = byteLength before ∧
      token.endIndex = byteLength (before ++ token.raw.toList) ∧
      schema.tokenize query = scanFrom schema 0 before ++
        token :: scanFrom schema token.endIndex after := by
  obtain ⟨_, _, _, _, _, hend⟩ := isAt_of_mem_scanFrom schema 0 query.toList token h
  obtain ⟨before, after, htext, hsettled, hstart, htokens, _⟩ :=
    exists_settled_before schema 0 query.toList token h
  rw [Nat.zero_add] at hstart
  refine ⟨before, after, htext, hsettled, hstart, ?_, htokens⟩
  rw [hend, hstart, Text.byteLength_append]

/-- The tokens in front of a token end before it, and those behind start where it has
ended. -/
theorem ordered_of_split {schema : Schema} {query : String} {before after : List Token}
    {token : Token} (h : schema.tokenize query = before ++ token :: after) :
    token.startIndex < token.endIndex ∧
      (∀ other ∈ before, other.startIndex < other.endIndex ∧
        other.endIndex ≤ token.startIndex) ∧
      ∀ other ∈ after, token.endIndex ≤ other.startIndex := by
  have hbounds : ∀ other ∈ before ++ token :: after, other.startIndex < other.endIndex := by
    intro other hmem
    rw [← h] at hmem
    exact (isAt_of_mem_scanFrom schema 0 query.toList other hmem).bounds.2
  have hordered : (before ++ token :: after).Pairwise fun s t => s.endIndex ≤ t.startIndex := by
    rw [← h]
    exact pairwise_scanFrom schema 0 query.toList
  rw [List.pairwise_append, List.pairwise_cons] at hordered
  obtain ⟨_, ⟨hbehind, _⟩, hfront⟩ := hordered
  refine ⟨hbounds token (by simp), fun other hmem => ⟨?_, ?_⟩, hbehind⟩
  · exact hbounds other (List.mem_append_left _ hmem)
  · exact hfront other hmem token (by simp)

/-- The tokens in front of a token and those behind it are other tokens. -/
theorem ne_of_split {schema : Schema} {query : String} {before after : List Token}
    {token : Token} (h : schema.tokenize query = before ++ token :: after) :
    (∀ other ∈ before, other ≠ token) ∧ ∀ other ∈ after, other ≠ token := by
  obtain ⟨hpos, hfront, hbehind⟩ := ordered_of_split h
  constructor
  · rintro other hmem rfl
    have hle := hfront other hmem
    omega
  · rintro other hmem rfl
    have hle := hbehind other hmem
    omega

/-- The other tokens are those in front of a token and those behind it. -/
theorem filter_ne_of_split {schema : Schema} {query : String} {before after : List Token}
    {token : Token} (h : schema.tokenize query = before ++ token :: after) :
    (schema.tokenize query).filter (· ≠ token) = before ++ after := by
  obtain ⟨hbefore, hafter⟩ := ne_of_split h
  rw [h, List.filter_append, List.filter_cons_of_neg (by simp),
    List.filter_eq_self.mpr (by simpa using hbefore),
    List.filter_eq_self.mpr (by simpa using hafter)]

/-! ## Another text in place of a token -/

/-- The query with another text in place of a token. -/
def Token.replaceIn (token : Token) (query other : String) : String :=
  String.Pos.Raw.extract query ⟨0⟩ ⟨token.startIndex⟩ ++ other ++
    String.Pos.Raw.extract query ⟨token.endIndex⟩ ⟨query.utf8ByteSize⟩

/-- Where a place of the query is when a text of another width stands for a token. -/
def Token.shift (token : Token) (width place : Nat) : Nat :=
  if token.endIndex ≤ place then token.startIndex + width + (place - token.endIndex) else place

/-- The tokens in front of a token stay. -/
theorem map_move_shift_of_split {schema : Schema} {query : String} {before after : List Token}
    {token : Token} (h : schema.tokenize query = before ++ token :: after) (width : Nat) :
    before.map (Token.move (token.shift width)) = before := by
  obtain ⟨hpos, hfront, _⟩ := ordered_of_split h
  refine (List.map_congr_left fun other hmem => ?_).trans (List.map_id _)
  obtain ⟨hother, hle⟩ := hfront other hmem
  have hstart : token.shift width other.startIndex = other.startIndex := if_neg (by omega)
  have hend : token.shift width other.endIndex = other.endIndex := if_neg (by omega)
  rw [Token.move, hstart, hend]
  rfl

/-- The tokens behind a token move by the difference of the two widths. -/
theorem scanFrom_move_shift (schema : Schema) (token : Token) (width : Nat)
    (after : List Char) :
    (scanFrom schema token.endIndex after).map (Token.move (token.shift width)) =
      scanFrom schema (token.startIndex + width) after := by
  have hshift : ∀ place, token.shift width (place + token.endIndex) =
      place + (token.startIndex + width) := by
    intro place
    rw [Token.shift, if_pos (by omega)]
    omega
  rw [scanFrom_eq_move schema token.endIndex, scanFrom_eq_move schema (_ + _), List.map_map]
  refine List.map_congr_left fun other _ => ?_
  simp only [Function.comp_apply, Token.move, hshift]

/-- The text of a query with another text in place of a token. -/
theorem toList_replaceIn {query : String} {token : Token} {before after : List Char}
    (htext : query.toList = before ++ (token.raw.toList ++ after))
    (hstart : token.startIndex = byteLength before)
    (hend : token.endIndex = byteLength (before ++ token.raw.toList)) (other : String) :
    (token.replaceIn query other).toList = before ++ (other.toList ++ after) := by
  have hrest : query.toList = before ++ token.raw.toList ++ after := by
    rw [htext, List.append_assoc]
  rw [Token.replaceIn, hstart, hend, Text.extract_start htext, Text.extract_end hrest]
  simp

/-- Blanks in place of a token, or nothing, leave the other tokens, and those behind
move. -/
theorem tokenize_replaceIn (schema : Schema) (query gap : String)
    (hgap : ∀ c ∈ gap.toList, isBlank c = true) {token : Token}
    (h : token ∈ schema.tokenize query) :
    schema.tokenize (token.replaceIn query gap) =
      ((schema.tokenize query).filter (· ≠ token)).map
        (Token.move (token.shift gap.utf8ByteSize)) := by
  obtain ⟨before, after, htext, hsettled, hstart, hend, htokens⟩ := exists_split schema query h
  have hwidth : byteLength gap.toList = gap.utf8ByteSize := by
    rw [Text.byteLength_eq_utf8ByteSize, String.ofList_toList]
  rw [filter_ne_of_split htokens, List.map_append, map_move_shift_of_split htokens,
    scanFrom_move_shift, Schema.tokenize, toList_replaceIn htext hstart hend, hsettled,
    scanFrom_gap schema _ hgap, hwidth, Nat.zero_add, hstart]

end IssueSearch
