import IssueSearch.Proofs.Text.Offset
import IssueSearch.Proofs.Token.Scan

/-!
# The tokens share out the query

Tokens and the blanks between them are the whole query.  Each token is the slice
of the query at its place, tokens do not overlap, and what no token covers is
blank.

* `Token.IsAt`: the token is a slice of a text that starts at a byte offset;
* `interleave`: the text of gaps and tokens in turn;
* `isAt_of_mem_scanFrom`, `pairwise_scanFrom`, `isBlank_of_uncovered`,
  `exists_gaps`: the parts of the partition, each by induction on the steps of
  the scanner;
* `tokenize_partition`: all of them for a query.
-/

namespace IssueSearch

open Text (isBlank byteLength)

/-- The token is a slice, not empty, of a text that starts at a byte offset. -/
def Token.IsAt (start : Nat) (text : List Char) (token : Token) : Prop :=
  ∃ before after, text = before ++ token.raw.toList ++ after ∧ token.raw.toList ≠ [] ∧
    token.startIndex = start + byteLength before ∧
    token.endIndex = token.startIndex + byteLength token.raw.toList

/-- The text of gaps and tokens in turn, with the last gaps behind all tokens. -/
def interleave : List (List Char) → List Token → List Char
  | gap :: gaps, token :: tokens => gap ++ token.raw.toList ++ interleave gaps tokens
  | gaps, _ => gaps.flatten

/-- A token that a lexeme gives is the slice that was read. -/
theorem isAt_token {schema : Schema} (start : Nat) (gap : List Char) {text : List Char}
    {reading : Reading} (hread : readLexeme? schema text = some reading) :
    (reading.token (start + byteLength gap)).IsAt start (gap ++ text) := by
  obtain ⟨hparts, hraw⟩ := readLexeme?_parts hread
  refine ⟨gap, reading.rest, ?_, ?_, rfl, ?_⟩
  · rw [← hparts]
    simp [Reading.token]
  · simpa [Reading.token] using hraw
  · simp [Reading.token]

/-- Every token is a slice of the text. -/
theorem isAt_of_mem_scanFrom (schema : Schema) (start : Nat) (text : List Char) :
    ∀ token ∈ scanFrom schema start text, token.IsAt start text := by
  intro token hmem
  obtain ⟨before, part, reading, rfl, hread, rfl⟩ := exists_reading_at schema start text token hmem
  exact isAt_token start before hread

/-- A token ends behind its start and not before the start of the text. -/
theorem Token.IsAt.bounds {token : Token} {start : Nat} {text : List Char}
    (h : token.IsAt start text) : start ≤ token.startIndex ∧ token.startIndex < token.endIndex := by
  obtain ⟨before, after, _, hraw, hstart, hend⟩ := h
  have hpos := Text.byteLength_pos hraw
  omega

/-- Each token ends before the next one starts. -/
theorem pairwise_scanFrom (schema : Schema) (start : Nat) (text : List Char) :
    (scanFrom schema start text).Pairwise fun s t => s.endIndex ≤ t.startIndex := by
  induction htokens : scanFrom schema start text using List.rec generalizing start text with
  | nil => exact List.Pairwise.nil
  | cons token tokens ih =>
    rcases blank_or_gap text with hblank | ⟨gap, c, rest, rfl, hgap, hc⟩
    · rw [scanFrom_of_blank schema start hblank] at htokens
      cases htokens
    · obtain ⟨reading, hread⟩ := exists_readLexeme? schema rest hc
      rw [scanFrom_of_read start hgap hc hread] at htokens
      obtain ⟨rfl, htail⟩ := List.cons.inj htokens
      refine List.Pairwise.cons (fun t ht => ?_) (ih _ _ htail)
      rw [← htail] at ht
      have hbounds := (isAt_of_mem_scanFrom schema _ _ t ht).bounds
      exact hbounds.1

/-- Of things that stand one behind the other there is at most one, if none of them
stands behind another. -/
theorem length_le_one_of_pairwise {α : Type} {R : α → α → Prop} {list : List α}
    (h : list.Pairwise R) (hnone : ∀ a ∈ list, ∀ b ∈ list, ¬R a b) : list.length ≤ 1 := by
  cases list with
  | nil => simp
  | cons first others =>
    cases others with
    | nil => simp
    | cons second others =>
      have hbehind := List.rel_of_pairwise_cons h (List.mem_cons_self ..)
      exact absurd hbehind (hnone first (by simp) second (by simp))

/-- A character that no token covers is blank. -/
theorem isBlank_of_uncovered (schema : Schema) (start : Nat) (text : List Char) :
    ∀ before c after, text = before ++ c :: after →
      (∀ token ∈ scanFrom schema start text,
        ¬(token.startIndex ≤ start + byteLength before ∧
          start + byteLength before < token.endIndex)) →
      isBlank c = true := by
  refine scanFrom_induction schema
    (motive := fun start text tokens => ∀ before c after, text = before ++ c :: after →
      (∀ token ∈ tokens, ¬(token.startIndex ≤ start + byteLength before ∧
        start + byteLength before < token.endIndex)) → isBlank c = true)
    ?_ ?_ start text
  · intro start text hblank before c after htext _
    exact hblank c (by simp [htext])
  · intro start gap d rest reading tokens hgap _ hread ih before c after htext huncovered
    have htoken := huncovered _ (List.mem_cons_self ..)
    have htokens : ∀ token ∈ tokens, _ := fun token hmem =>
      huncovered token (List.mem_cons_of_mem _ hmem)
    rw [← (readLexeme?_parts hread).1] at htext
    simp only [Reading.token] at htoken
    -- the character lies in the gap, in the lexeme or behind it
    rcases List.append_eq_append_iff.mp htext with ⟨inner, rfl, hinner⟩ | ⟨inner, rfl, hinner⟩
    · rcases List.append_eq_append_iff.mp hinner with ⟨more, rfl, hmore⟩ | ⟨more, hraw, hmore⟩
      · refine ih more c after hmore ?_
        simpa only [Text.byteLength_append, ← Nat.add_assoc] using htokens
      · cases more with
        | nil =>
          rw [List.append_nil] at hraw
          subst hraw
          refine ih [] c after hmore.symm ?_
          simpa only [Text.byteLength_append, ← Nat.add_assoc, byteLength, Nat.add_zero]
            using htokens
        | cons e more =>
          have hpos : 0 < byteLength (e :: more) := Text.byteLength_pos (by simp)
          rw [hraw, Text.byteLength_append, Text.byteLength_append] at htoken
          omega
    · cases inner with
      | nil =>
        have hpos := Text.byteLength_pos (readLexeme?_parts hread).2
        rw [List.append_nil] at htoken
        omega
      | cons e inner =>
        obtain ⟨rfl, _⟩ := List.cons.inj hinner
        exact hgap c (by simp)

/-- Blank gaps between the tokens fill up the text. -/
theorem exists_gaps (schema : Schema) (start : Nat) (text : List Char) :
    ∃ gaps : List (List Char), gaps.length = (scanFrom schema start text).length + 1 ∧
      (∀ gap ∈ gaps, ∀ c ∈ gap, isBlank c = true) ∧
      text = interleave gaps (scanFrom schema start text) := by
  refine scanFrom_induction schema
    (motive := fun _ text tokens => ∃ gaps : List (List Char),
      gaps.length = tokens.length + 1 ∧ (∀ gap ∈ gaps, ∀ c ∈ gap, isBlank c = true) ∧
      text = interleave gaps tokens)
    ?_ ?_ start text
  · intro start text hblank
    refine ⟨[text], rfl, fun gap hmem => ?_, by simp [interleave]⟩
    rw [List.mem_singleton.mp hmem]
    exact hblank
  · intro start gap c rest reading tokens hgap _ hread ⟨gaps, hlength, hblank, htext⟩
    refine ⟨gap :: gaps, by simp [hlength], fun other hmem => ?_, ?_⟩
    · rcases List.mem_cons.mp hmem with rfl | hmem
      · exact hgap
      · exact hblank other hmem
    · rw [interleave, ← htext, ← (readLexeme?_parts hread).1]
      simp [Reading.token]

/-- The tokens of a query are slices of it, not empty, at increasing places that
do not overlap; what they leave out is blank, and with it they are the query.
At no place that is not blank does every rule fail. -/
theorem tokenize_partition (schema : Schema) (query : String) :
    (∀ token ∈ schema.tokenize query,
      token.startIndex < token.endIndex ∧
      String.Pos.Raw.IsValid query ⟨token.startIndex⟩ ∧
      String.Pos.Raw.IsValid query ⟨token.endIndex⟩ ∧
      String.Pos.Raw.extract query ⟨token.startIndex⟩ ⟨token.endIndex⟩ = token.raw) ∧
    ((schema.tokenize query).Pairwise fun s t => s.endIndex ≤ t.startIndex) ∧
    (∀ before c after, query.toList = before ++ c :: after →
      (∀ token ∈ schema.tokenize query,
        ¬(token.startIndex ≤ byteLength before ∧ byteLength before < token.endIndex)) →
      isBlank c = true) ∧
    (∃ gaps : List (List Char), gaps.length = (schema.tokenize query).length + 1 ∧
      (∀ gap ∈ gaps, ∀ c ∈ gap, isBlank c = true) ∧
      query.toList = interleave gaps (schema.tokenize query)) ∧
    (∀ c rest, isBlank c = false → (readLexeme? schema (c :: rest)).isSome = true) := by
  refine ⟨fun token hmem => ?_, pairwise_scanFrom schema 0 query.toList, ?_,
    exists_gaps schema 0 query.toList, fun c rest hc => ?_⟩
  · obtain ⟨before, after, htext, hraw, hstart, hend⟩ :=
      isAt_of_mem_scanFrom schema 0 query.toList token hmem
    rw [Nat.zero_add] at hstart
    have hpos := Text.byteLength_pos hraw
    rw [hend, hstart]
    refine ⟨by omega, ?_, ?_, ?_⟩
    · rw [List.append_assoc] at htext
      exact Text.isValid_of_append htext
    · rw [← Text.byteLength_append]
      exact Text.isValid_of_append htext
    · rw [Text.extract_of_append htext, String.ofList_toList]
  · intro before c after htext huncovered
    refine isBlank_of_uncovered schema 0 query.toList before c after htext ?_
    rw [Nat.zero_add]
    exact huncovered
  · exact Option.isSome_iff_exists.mpr (exists_readLexeme? schema rest hc)

end IssueSearch
