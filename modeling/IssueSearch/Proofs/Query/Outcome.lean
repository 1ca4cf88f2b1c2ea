import IssueSearch.Proofs.Token.Scan
import IssueSearch.Query

/-!
# What a query adds up to

Reading a query takes an outcome, which is empty at first, through the effects of
its lexemes.  The place of a lexeme has no part in it.

* `Outcome`, `Outcome.step`: what has been read so far, after one more effect;
* `Schema.outcome`: the outcome after a text, with its three equations
  `outcome_nil`, `outcome_blank` and `outcome_read`;
* `effect_move`, `effectsFrom_start`: the place has no part in the effects;
* `parse_eq_outcome`: the meaning of a query is its outcome;
* `outcome_induction`: what every step keeps holds of every outcome.
-/

namespace IssueSearch

open Text (isBlank byteLength)
open Time (Instant)

/-! ## Outcomes -/

/-- What the tokens of a query that have been read add up to. -/
structure Outcome where
  filters : Filters
  sort : Option SortOrder
  words : List String
  causes : List Cause

namespace Outcome

/-- Nothing has been read. -/
def empty : Outcome :=
  ⟨Filters.empty, none, [], []⟩

/-- The outcome after one more token. -/
def step (outcome : Outcome) : Effect → Outcome
  | .nothing => outcome
  | .word text => { outcome with words := outcome.words ++ [text] }
  | .clause clause => { outcome with filters := outcome.filters.apply clause }
  | .sort order => { outcome with sort := some order }
  | .reject cause => { outcome with causes := outcome.causes ++ [cause] }

/-- The words, with one space between them. -/
def freeText (outcome : Outcome) : String :=
  String.intercalate " " outcome.words

/-- The filters with the free text. -/
def searched (outcome : Outcome) : Filters :=
  { outcome.filters with
    text := if outcome.freeText.isEmpty then none else some outcome.freeText }

/-- Step by step the effects add up to what they are as a whole. -/
theorem foldl_step (effects : List Effect) (outcome : Outcome) :
    effects.foldl step outcome =
      { filters := (effects.filterMap Effect.clause?).foldl Filters.apply outcome.filters
        sort := (effects.filterMap Effect.sort?).getLast?.or outcome.sort
        words := outcome.words ++ effects.filterMap Effect.word?
        causes := outcome.causes ++ effects.filterMap Effect.cause? } := by
  induction effects generalizing outcome with
  | nil => simp
  | cons effect effects ih =>
    rw [List.foldl_cons, ih]
    simp only [List.filterMap_cons]
    cases effect with
    | sort order =>
      simp only [step, Effect.word?, Effect.clause?, Effect.sort?, Effect.cause?,
        List.getLast?_cons]
      cases (effects.filterMap Effect.sort?).getLast? <;> rfl
    | _ => simp [step, Effect.word?, Effect.clause?, Effect.sort?, Effect.cause?]

end Outcome

/-! ## The outcome of a text -/

/-- What a lexeme contributes to its query. -/
def Reading.effect (reading : Reading) (schema : Schema) (now : Instant) : Effect :=
  (reading.token 0).effect schema now

/-- A clause is made of the value and the operator of its token. -/
theorem clause?_congr (field : Field) (now : Instant) {s t : Token} (hvalue : s.value = t.value)
    (hoperator : s.operator = t.operator) : field.clause? s now = field.clause? t now := by
  rw [Field.clause?, Field.clause?, hvalue, hoperator]

/-- A token contributes the same at another place. -/
theorem effect_move (token : Token) (place : Nat → Nat) (schema : Schema) (now : Instant) :
    (token.move place).effect schema now = token.effect schema now := by
  have hclause : ∀ field : Field, field.clause? (token.move place) now =
      field.clause? token now := fun field => clause?_congr field now rfl rfl
  unfold Token.effect Token.textEffect Token.sortEffect Token.fieldEffect
  simp only [hclause]
  rfl

/-- The place of a lexeme has no part in its effect. -/
theorem effect_token (reading : Reading) (start : Nat) (schema : Schema) (now : Instant) :
    (reading.token start).effect schema now = reading.effect schema now := by
  have hmove : reading.token start = (reading.token 0).move (· + start) := by
    simp [Reading.token, Token.move, Nat.add_comm]
  rw [hmove, effect_move]
  rfl

/-- The effects of a text at a place. -/
def effectsFrom (schema : Schema) (now : Instant) (start : Nat) (text : List Char) : List Effect :=
  (scanFrom schema start text).map fun token => token.effect schema now

/-- The outcome after reading a text. -/
def Schema.outcome (schema : Schema) (now : Instant) (text : List Char) (before : Outcome) :
    Outcome :=
  (effectsFrom schema now 0 text).foldl Outcome.step before

section

variable {schema : Schema} {now : Instant}

/-- A text has the same effects wherever it stands. -/
theorem effectsFrom_start (start : Nat) (text : List Char) :
    effectsFrom schema now start text = effectsFrom schema now 0 text := by
  rw [effectsFrom, scanFrom_eq_move, List.map_map]
  exact List.map_congr_left fun token _ => effect_move token (· + start) schema now

/-- A blank text changes nothing. -/
theorem outcome_of_blank {text : List Char} (h : ∀ c ∈ text, isBlank c = true)
    (before : Outcome) : schema.outcome now text before = before := by
  rw [Schema.outcome, effectsFrom, scanFrom_of_blank schema 0 h]
  rfl

theorem outcome_nil (before : Outcome) : schema.outcome now [] before = before :=
  outcome_of_blank (by simp) before

/-- Behind blanks one lexeme is read, and the outcome goes on behind it. -/
theorem outcome_gap_read (gap : List Char) {rest : List Char} {c : Char} {reading : Reading}
    (hgap : ∀ c ∈ gap, isBlank c = true) (hc : isBlank c = false)
    (hread : readLexeme? schema (c :: rest) = some reading) (before : Outcome) :
    schema.outcome now (gap ++ c :: rest) before =
      schema.outcome now reading.rest (before.step (reading.effect schema now)) := by
  have heffects : effectsFrom schema now 0 (gap ++ c :: rest) =
      reading.effect schema now :: effectsFrom schema now 0 reading.rest := by
    rw [← effectsFrom_start (0 + byteLength gap + byteLength reading.raw) reading.rest,
      effectsFrom, scanFrom_of_read 0 hgap hc hread, List.map_cons, effect_token]
    rfl
  rw [Schema.outcome, heffects, List.foldl_cons]
  rfl

/-- One lexeme is read, and the outcome goes on behind it. -/
theorem outcome_read {rest : List Char} {c : Char} {reading : Reading} (hc : isBlank c = false)
    (hread : readLexeme? schema (c :: rest) = some reading) (before : Outcome) :
    schema.outcome now (c :: rest) before =
      schema.outcome now reading.rest (before.step (reading.effect schema now)) :=
  outcome_gap_read [] (by simp) hc hread before

/-- A blank is passed over. -/
theorem outcome_blank {c : Char} (hc : isBlank c = true) (rest : List Char) (before : Outcome) :
    schema.outcome now (c :: rest) before = schema.outcome now rest before := by
  rcases blank_or_gap rest with hblank | ⟨gap, d, tail, rfl, hgap, hd⟩
  · have hall : ∀ d ∈ c :: rest, isBlank d = true := List.forall_mem_cons.mpr ⟨hc, hblank⟩
    rw [outcome_of_blank hall, outcome_of_blank hblank]
  · obtain ⟨reading, hread⟩ := exists_readLexeme? schema tail hd
    have hall : ∀ d ∈ c :: gap, isBlank d = true := List.forall_mem_cons.mpr ⟨hc, hgap⟩
    rw [outcome_gap_read gap hgap hd hread, ← List.cons_append,
      outcome_gap_read (c :: gap) hall hd hread]

/-- What one lexeme keeps, the text as a whole keeps. -/
theorem outcome_induction {motive : Outcome → Prop} (text : List Char)
    (step : ∀ part reading before, part <:+ text → readLexeme? schema part = some reading →
      motive before → motive (before.step (reading.effect schema now)))
    {before : Outcome} (h : motive before) : motive (schema.outcome now text before) := by
  induction hlength : text.length using Nat.strongRecOn generalizing text before with
  | ind length ih =>
    rcases blank_or_gap text with hblank | ⟨gap, c, rest, rfl, hgap, hc⟩
    · rwa [outcome_of_blank hblank]
    · obtain ⟨reading, hread⟩ := exists_readLexeme? schema rest hc
      obtain ⟨hparts, _⟩ := readLexeme?_parts hread
      have hshorter := length_rest_readLexeme?_lt hread
      have hpart : c :: rest <:+ gap ++ c :: rest := List.suffix_append gap (c :: rest)
      have hrest : reading.rest <:+ gap ++ c :: rest := by
        refine List.IsSuffix.trans ?_ hpart
        exact ⟨reading.raw, hparts⟩
      rw [List.length_append] at hlength
      rw [outcome_gap_read gap hgap hc hread]
      refine ih reading.rest.length (by omega) reading.rest ?_
        (step _ reading before hpart hread h) rfl
      intro part other between hsuffix
      exact step part other between (hsuffix.trans hrest)

end

/-! ## The meaning of a query -/

/-- The meaning of a query is the outcome of its text. -/
theorem parse_eq_outcome (schema : Schema) (now : Instant) (query : String) :
    let outcome := schema.outcome now query.toList Outcome.empty
    let parsed := schema.parse now query
    parsed.freeText = outcome.freeText ∧ parsed.sort = outcome.sort ∧
      parsed.filters = outcome.searched ∧ parsed.errors.map (·.cause) = outcome.causes := by
  have hcauses : ∀ tokens : List Token,
      (tokens.filterMap fun token => (token.effect schema now).cause?.map fun cause =>
        Diagnostic.ofCause cause token.startIndex token.endIndex).map (·.cause) =
      (tokens.map fun token => token.effect schema now).filterMap Effect.cause? := by
    intro tokens
    rw [List.map_filterMap, List.filterMap_map]
    refine congrArg (List.filterMap · tokens) (funext fun token => ?_)
    rw [Function.comp_apply]
    cases (token.effect schema now).cause? <;> rfl
  simp only [Schema.outcome, effectsFrom, Outcome.foldl_step, Schema.parse, Query.ofTokens,
    Schema.tokenize, Outcome.searched, Outcome.freeText, hcauses]
  simp [Outcome.empty, Filters.ofClauses]

end IssueSearch
