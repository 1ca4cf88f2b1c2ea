import IssueSearch.Proofs.Token.Ending
import IssueSearch.Proofs.Token.Partition

/-!
# Scanning a query in parts

The tokens of a part of a query do not depend on what follows the part, once its last
lexeme has ended.

* `IsSettled`: no text that follows changes the tokens of a text;
* `isSettled_append_gap`: a text and a blank behind it are settled, unless the last
  token ends with the text (`Token.isUnclosed`, `Token.isBareOr`);
* `exists_settled_before`: the text in front of a token is settled.
-/

namespace IssueSearch

open Text (isBlank byteLength IsSeam)

/-! ## One lexeme -/

/-- Blanks, a lexeme and what its end allows are read one after the other. -/
theorem scanFrom_of_allows {schema : Schema} (start : Nat) {gap text rest : List Char}
    {reading : Reading} (hgap : ∀ c ∈ gap, isBlank c = true)
    (hread : readLexeme? schema text = some reading) (hrest : reading.ending.Allows rest) :
    scanFrom schema start (gap ++ (reading.raw ++ rest)) =
      reading.token (start + byteLength gap) ::
        scanFrom schema (start + byteLength gap + byteLength reading.raw) rest := by
  have hsame := (readLexeme?_ends hread).2 rest hrest
  obtain ⟨c, tail, htext, hc⟩ := exists_cons_of_readLexeme? hsame
  rw [htext] at hsame ⊢
  rw [scanFrom_of_read start hgap hc hsame]
  rfl

/-- A text that starts with a lexeme has its token and those of the rest. -/
theorem scanFrom_of_readLexeme? {schema : Schema} (start : Nat) {text : List Char}
    {reading : Reading} (hread : readLexeme? schema text = some reading) :
    scanFrom schema start text =
      reading.token start :: scanFrom schema (reading.token start).endIndex reading.rest := by
  obtain ⟨c, rest, rfl, hc⟩ := exists_cons_of_readLexeme? hread
  have hgap : ∀ c ∈ ([] : List Char), isBlank c = true := by simp
  exact scanFrom_of_read start hgap hc hread

/-- Blanks at the start of a text are passed over. -/
theorem scanFrom_gap (schema : Schema) (start : Nat) {gap : List Char}
    (hgap : ∀ c ∈ gap, isBlank c = true) (text : List Char) :
    scanFrom schema start (gap ++ text) = scanFrom schema (start + byteLength gap) text := by
  rcases blank_or_gap text with hblank | ⟨inner, c, rest, rfl, hinner, hc⟩
  · have hall : ∀ c ∈ gap ++ text, isBlank c = true := by
      intro c hmem
      rcases List.mem_append.mp hmem with hmem | hmem
      · exact hgap c hmem
      · exact hblank c hmem
    rw [scanFrom_of_blank schema _ hall, scanFrom_of_blank schema _ hblank]
  · obtain ⟨reading, hread⟩ := exists_readLexeme? schema rest hc
    have hall : ∀ c ∈ gap ++ inner, isBlank c = true := by
      intro c hmem
      rcases List.mem_append.mp hmem with hmem | hmem
      · exact hgap c hmem
      · exact hinner c hmem
    rw [← List.append_assoc, scanFrom_of_read start hall hc hread,
      scanFrom_of_read _ hinner hc hread]
    simp only [Text.byteLength_append, Nat.add_assoc]

/-! ## Settled texts -/

/-- No text that follows changes the tokens of this one. -/
def IsSettled (schema : Schema) (first : List Char) : Prop :=
  ∀ start rest, scanFrom schema start (first ++ rest) =
    scanFrom schema start first ++ scanFrom schema (start + byteLength first) rest

/-- Blanks are settled. -/
theorem isSettled_of_blank (schema : Schema) {gap : List Char}
    (hgap : ∀ c ∈ gap, isBlank c = true) : IsSettled schema gap := by
  intro start rest
  rw [scanFrom_gap schema start hgap, scanFrom_of_blank schema start hgap, List.nil_append]

/-- A lexeme and a settled text are settled, if the lexeme allows all that starts with
the text. -/
theorem IsSettled.read {schema : Schema} {gap text tail : List Char} {reading : Reading}
    (htail : IsSettled schema tail) (hgap : ∀ c ∈ gap, isBlank c = true)
    (hread : readLexeme? schema text = some reading)
    (hallows : ∀ rest, reading.ending.Allows (tail ++ rest)) :
    IsSettled schema (gap ++ (reading.raw ++ tail)) := by
  intro start rest
  have hnil := hallows []
  rw [List.append_nil] at hnil
  rw [List.append_assoc, List.append_assoc, scanFrom_of_allows start hgap hread (hallows rest),
    scanFrom_of_allows start hgap hread hnil, htail, List.cons_append, Text.byteLength_append,
    Text.byteLength_append]
  simp only [Nat.add_assoc]

/-! ## A blank behind a text -/

/-- Whether the value of a token has an opening quote and no closing one. -/
def Token.isUnclosed (token : Token) : Bool :=
  IssueSearch.isUnclosed (writtenValue token.kind token.raw.toList)

/-- Whether a token is the bare word `OR`. -/
def Token.isBareOr (token : Token) : Bool :=
  token.kind == .text && token.raw == "OR"

/-- Whether a blank behind a token leaves it as it is. -/
def Token.isEnded (token : Token) : Bool :=
  !token.isUnclosed && !token.isBareOr

/-- A lexeme that ends with the text is unclosed, or it is the bare word `OR`. -/
theorem ending_ne_final {reading : Reading} {start : Nat}
    (h : (reading.token start).isEnded = true) : reading.ending ≠ .final := by
  simp only [Token.isEnded, Token.isUnclosed, Token.isBareOr, Reading.token,
    String.toList_ofList, Bool.and_eq_true, Bool.not_eq_true', Bool.and_eq_false_iff,
    beq_eq_false_iff_ne] at h
  obtain ⟨hclosed, hor⟩ := h
  unfold Reading.ending
  split
  · simp
  · split
    · next hword =>
      rcases hor with hkind | hraw
      · exact absurd hword.1 hkind
      · rw [hword.2] at hraw
        exact absurd rfl hraw
    · unfold Ending.ofValue
      rw [hclosed]
      split
      · next hfalse => cases hfalse
      · split <;> simp

/-- A text whose last token has ended and a blank behind it are settled, and the blank
adds no token. -/
theorem isSettled_append_gap {schema : Schema} {gap : List Char}
    (hgap : ∀ c ∈ gap, isBlank c = true) (hne : gap ≠ []) (start : Nat) (text : List Char)
    (hlast : ∀ token ∈ (scanFrom schema start text).getLast?, token.isEnded = true) :
    IsSettled schema (text ++ gap) ∧
      scanFrom schema start (text ++ gap) = scanFrom schema start text := by
  have hseam : ∀ rest, IsSeam (gap ++ rest) := by
    intro rest c hc
    rw [List.head?_append_of_ne_nil _ hne] at hc
    exact hgap c (List.mem_of_head? hc)
  revert hlast
  refine scanFrom_induction schema
    (motive := fun start text tokens => (∀ token ∈ tokens.getLast?, token.isEnded = true) →
      IsSettled schema (text ++ gap) ∧ scanFrom schema start (text ++ gap) = tokens)
    ?_ ?_ start text
  · intro start text hblank _
    have hall : ∀ c ∈ text ++ gap, isBlank c = true := by
      intro c hmem
      rcases List.mem_append.mp hmem with hmem | hmem
      · exact hblank c hmem
      · exact hgap c hmem
    exact ⟨isSettled_of_blank schema hall, scanFrom_of_blank schema start hall⟩
  · intro start before c rest reading tokens hbefore hc hread ih hlast
    obtain ⟨hsettled, hscan⟩ := ih fun token htoken => hlast token (by
      rw [List.getLast?_cons, htoken]
      rfl)
    have hrest := (readLexeme?_ends hread).1
    have hfinal : reading.ending ≠ .final := by
      intro hending
      rw [hending] at hrest
      have hnone : tokens = [] := by
        rw [← hscan, hrest, List.nil_append, scanFrom_of_blank schema _ hgap]
      rw [hnone] at hlast
      exact ending_ne_final (hlast _ rfl) hending
    have hallows : ∀ more, reading.ending.Allows (reading.rest ++ gap ++ more) := by
      intro more
      by_cases hnil : reading.rest = []
      · rw [hnil, List.nil_append]
        exact Ending.allows_of_isSeam hfinal (hseam more) (by simp [hne])
      · refine hrest.of_head? hnil ?_
        rw [List.append_assoc, List.head?_append_of_ne_nil _ hnil]
    have htext : before ++ c :: rest ++ gap = before ++ (reading.raw ++ (reading.rest ++ gap)) := by
      rw [← (readLexeme?_parts hread).1]
      simp
    have hnext := hallows []
    rw [List.append_nil] at hnext
    rw [htext, scanFrom_of_allows start hbefore hread hnext, hscan]
    exact ⟨hsettled.read hbefore hread hallows, rfl⟩

/-! ## The text in front of a token -/

/-- The text in front of a token is settled, and the tokens of a text are those in
front of the token, the token itself and those behind it. -/
theorem exists_settled_before (schema : Schema) (start : Nat) (text : List Char) :
    ∀ token ∈ scanFrom schema start text, ∃ before after,
      text = before ++ (token.raw.toList ++ after) ∧ IsSettled schema before ∧
      token.startIndex = start + byteLength before ∧
      scanFrom schema start text =
        scanFrom schema start before ++ token :: scanFrom schema token.endIndex after ∧
      ∃ c ∈ token.raw.toList.head?, isBlank c = false := by
  refine scanFrom_induction schema
    (motive := fun start text _ => ∀ token ∈ scanFrom schema start text, ∃ before after,
      text = before ++ (token.raw.toList ++ after) ∧ IsSettled schema before ∧
      token.startIndex = start + byteLength before ∧
      scanFrom schema start text =
        scanFrom schema start before ++ token :: scanFrom schema token.endIndex after ∧
      ∃ c ∈ token.raw.toList.head?, isBlank c = false)
    ?_ ?_ start text
  · intro start text hblank token hmem
    rw [scanFrom_of_blank schema start hblank] at hmem
    cases hmem
  · intro start gap c rest reading tokens hgap hc hread ih token hmem
    obtain ⟨hparts, _⟩ := readLexeme?_parts hread
    have hscan := scanFrom_of_read start hgap hc hread
    rw [hscan] at hmem ⊢
    rcases List.mem_cons.mp hmem with rfl | hmem
    · have hraw : ((reading.token (start + byteLength gap)).raw.toList) = reading.raw := by
        simp [Reading.token]
      refine ⟨gap, reading.rest, ?_, isSettled_of_blank schema hgap, rfl, ?_, c, ?_, hc⟩
      · rw [hraw, hparts]
      · rw [scanFrom_of_blank schema start hgap]
        rfl
      · rw [hraw]
        have hhead := congrArg List.head? hparts
        rwa [List.head?_append_of_ne_nil _ (readLexeme?_parts hread).2] at hhead
    · obtain ⟨before, after, htext, hsettled, hstart, htokens, d, hd, hsolid⟩ := ih token hmem
      have hrest := (readLexeme?_ends hread).1
      rw [htext] at hrest
      -- with nothing in front of it the token follows the lexeme directly, and its first
      -- character is solid: then the lexeme allows anything
      have hallows : ∀ more, reading.ending.Allows (before ++ more) := by
        intro more
        cases before with
        | nil =>
          cases hraw : token.raw.toList with
          | nil => rw [hraw] at hd; cases hd
          | cons e raw =>
            rw [hraw] at hd hrest
            cases hd
            exact hrest.of_solid hsolid more
        | cons e before => exact hrest.of_head? (by simp) rfl
      have hnext := hallows []
      rw [List.append_nil] at hnext
      refine ⟨gap ++ (reading.raw ++ before), after, ?_, hsettled.read hgap hread hallows,
        ?_, ?_, d, hd, hsolid⟩
      · rw [← hparts, htext]
        simp
      · rw [hstart, Text.byteLength_append, Text.byteLength_append]
        omega
      · rw [scanFrom_of_allows start hgap hread hnext, htokens]
        rfl

end IssueSearch
