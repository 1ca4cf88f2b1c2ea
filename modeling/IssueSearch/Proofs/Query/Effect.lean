import IssueSearch.Proofs.Filters.Number
import IssueSearch.Proofs.Query.Outcome
import IssueSearch.Proofs.Schema
import Mathlib.Data.List.Basic

/-!
# What one token contributes

A token contributes a word, a clause or an order, it is rejected, or it contributes
nothing.  Its place has no part in this, and the places of diagnostics are those of
their tokens.

* `Field.typedClause`, `clause?_eq`: the clause of a value, by the type of its field;
* `clause?_cases`, `clause?_error_cases`: the clauses that a field makes of a token,
  and the causes for which it makes none;
* `Effect.IsIdle`, `effect_cases`: the kinds of tokens and what they contribute;
* `reject_cases`: the kinds of tokens and the causes for which they are rejected;
* `Token.diagnostic?`, `Diagnostic.move`: what is wrong with a token, and where;
* `ofTokens_map`, `ofTokens_move`: the meaning of tokens at other places.
-/

namespace IssueSearch

open Time (Instant)

/-! ## Clauses of a field -/

/-- The clause of a value that is not empty, by the type of its field. -/
def Field.typedClause (field : Field) (op : Operator) (value : String) (now : Instant) :
    Except Cause (Option Clause) :=
  match field.type with
  | .enum => (field.enumClause value.toList).map some
  | .number => (field.nonNegative value.toList).map fun n => some (.number field.name op n)
  | .date =>
      match Field.moment? op value.toList now with
      | some moment => .ok (some (.date field.name op moment))
      | none => .error (.invalidDate field.name value)
  | .text => .ok (some (.text value))

/-- An empty value makes no clause, any other one the clause of its type if the field allows
the operator. -/
theorem clause?_eq (field : Field) (token : Token) (now : Instant) :
    field.clause? token now =
      if Text.trim token.value.toList = [] then .ok none
      else if field.allows (token.operator.getD .eq) then
        field.typedClause (token.operator.getD .eq)
          (String.ofList (Text.trim token.value.toList)) now
      else .error (.unsupportedOperator field.name (token.operator.getD .eq).name) := by
  cases htype : field.type with
  | date =>
    cases hmoment : Field.moment? (token.operator.getD .eq) (Text.trim token.value.toList) now <;>
      simp [Field.clause?, Field.typedClause, htype, hmoment]
  | _ => simp [Field.clause?, Field.typedClause, htype]

/-- A field makes the clause of its type, of a value that is not empty. -/
theorem clause?_cases {field : Field} {token : Token} {now : Instant} {clause : Clause}
    (h : field.clause? token now = .ok (some clause)) :
    Text.trim token.value.toList ≠ [] ∧
      (field.enumClause (Text.trim token.value.toList) = .ok clause ∨
        (∃ n operator, field.nonNegative (Text.trim token.value.toList) = .ok n ∧
          clause = .number field.name operator n) ∨
        (∃ moment operator, Field.moment? operator (Text.trim token.value.toList) now =
          some moment ∧ clause = .date field.name operator moment) ∨
        clause = .text (String.ofList (Text.trim token.value.toList))) := by
  rw [clause?_eq] at h
  split at h
  · cases h
  · next hne =>
    refine ⟨hne, ?_⟩
    split at h
    · unfold Field.typedClause at h
      rw [String.toList_ofList] at h
      split at h
      · left
        cases henum : field.enumClause (Text.trim token.value.toList) with
        | error cause => rw [henum] at h; cases h
        | ok found => rw [henum] at h; cases h; rfl
      · right; left
        cases hnumber : field.nonNegative (Text.trim token.value.toList) with
        | error cause => rw [hnumber] at h; cases h
        | ok n => rw [hnumber] at h; cases h; exact ⟨n, _, rfl, rfl⟩
      · right; right; left
        split at h
        · next moment hmoment => cases h; exact ⟨moment, _, hmoment, rfl⟩
        · cases h
      · right; right; right
        cases h
        rfl
    · cases h

/-- The text that a field makes of a value is the value without the blanks around
it. -/
theorem trim_of_clause?_text {field : Field} {token : Token} {now : Instant} {word : String}
    (h : field.clause? token now = .ok (some (.text word))) :
    word = String.ofList (Text.trim token.value.toList) ∧ word ≠ "" := by
  obtain ⟨hne, henum | ⟨_, _, _, hnumber⟩ | ⟨_, _, _, hdate⟩ | htext⟩ := clause?_cases h
  · unfold Field.enumClause at henum
    dsimp only at henum
    split at henum <;> cases henum
  · cases hnumber
  · cases hdate
  · cases htext
    refine ⟨rfl, fun hempty => hne ?_⟩
    have hlist := congrArg String.toList hempty
    rwa [String.toList_ofList] at hlist

/-- A field refuses a token for its operator or for its value, and the cause names the
field. -/
theorem clause?_error_cases {field : Field} {token : Token} {now : Instant} {cause : Cause}
    (h : field.clause? token now = .error cause) :
    cause = .unsupportedOperator field.name (token.operator.getD .eq).name ∨
      ∃ value, cause = .invalidEnumValue field.name value field.values ∨
        cause = .negativeNumberRejected field.name value ∨
        cause = .invalidNumber field.name value ∨ cause = .invalidDate field.name value := by
  rw [clause?_eq] at h
  split at h
  · cases h
  · split at h
    · right
      unfold Field.typedClause at h
      rw [String.toList_ofList] at h
      refine ⟨String.ofList (Text.trim token.value.toList), ?_⟩
      split at h
      · unfold Field.enumClause at h
        dsimp only at h
        split at h
        · cases h
        · cases h
          exact Or.inl rfl
      · obtain ⟨_, _, _, hnumber⟩ | ⟨_, hnumber⟩ | ⟨_, hnumber⟩ :=
          nonNegative_cases field (Text.trim token.value.toList) <;> rw [hnumber] at h <;> cases h
        · exact Or.inr (Or.inl rfl)
        · exact Or.inr (Or.inr (Or.inl rfl))
      · split at h
        · cases h
        · cases h
          exact Or.inr (Or.inr (Or.inr rfl))
      · cases h
    · cases h
      exact Or.inl rfl

/-! ## Contributions -/

theorem Effect.word?_eq_some_iff {effect : Effect} {text : String} :
    effect.word? = some text ↔ effect = .word text := by
  cases effect <;> simp [word?]

theorem Effect.clause?_eq_some_iff {effect : Effect} {c : Clause} :
    effect.clause? = some c ↔ effect = .clause c := by
  cases effect <;> simp [clause?]

theorem Effect.cause?_eq_some_iff {effect : Effect} {cause : Cause} :
    effect.cause? = some cause ↔ effect = .reject cause := by
  cases effect <;> simp [cause?]

/-- What an accepted clause contributes: a text is a word of the query. -/
def Clause.effect : Clause → Effect
  | .text value => .word value
  | clause => .clause clause

/-- The effect leaves the search as it is: the token is rejected or passed over. -/
def Effect.IsIdle (effect : Effect) : Prop :=
  effect = .nothing ∨ ∃ cause, effect = .reject cause

/-- An idle effect is no word, no clause and no order. -/
theorem Effect.IsIdle.parts {effect : Effect} (h : effect.IsIdle) :
    effect.word? = none ∧ effect.clause? = none ∧ effect.sort? = none := by
  rcases h with rfl | ⟨cause, rfl⟩
  · exact ⟨rfl, rfl, rfl⟩
  · exact ⟨rfl, rfl, rfl⟩

/-- A token is idle or contributes what its kind can: only a filter on a field that is
not negated contributes a clause. -/
theorem effect_cases (token : Token) (schema : Schema) (now : Instant) :
    (token.effect schema now).IsIdle ∨
      (token.kind = .text ∧ token.value ≠ "" ∧ token.effect schema now = .word token.value) ∨
      (token.kind = .sort ∧ ∃ order, sortOrder? token.value.toList = .ok (some order) ∧
        token.effect schema now = .sort order) ∨
      (token.kind = .field ∧ token.isNegation = false ∧ ∃ field ∈ schema.fields, ∃ clause,
        Field.clause? field token now = .ok (some clause) ∧
        token.effect schema now = clause.effect) := by
  cases hkind : token.kind with
  | text =>
    have heffect : token.effect schema now = token.textEffect schema := by
      simp [Token.effect, hkind]
    rw [heffect, Token.textEffect]
    split
    · next name => exact Or.inl (Or.inr ⟨_, rfl⟩)
    · by_cases hempty : token.value.isEmpty = true
      · rw [if_pos hempty]
        exact Or.inl (Or.inl rfl)
      · rw [if_neg hempty]
        have hne : token.value ≠ "" := by simpa using hempty
        exact Or.inr (Or.inl ⟨rfl, hne, rfl⟩)
  | operator =>
    left; left
    simp [Token.effect, hkind]
  | sort =>
    have heffect : token.effect schema now = token.sortEffect := by
      simp [Token.effect, hkind]
    rw [heffect, Token.sortEffect]
    cases horder : sortOrder? token.value.toList with
    | error cause => exact Or.inl (Or.inr ⟨cause, rfl⟩)
    | ok found =>
      cases found with
      | none => exact Or.inl (Or.inl rfl)
      | some order => exact Or.inr (Or.inr (Or.inl ⟨rfl, order, rfl, rfl⟩))
  | field =>
    cases hfield : token.field.bind fun name => schema.lookup name.toList with
    | none =>
      left; left
      simp [Token.effect, hkind, hfield]
    | some field =>
      have heffect : token.effect schema now = token.fieldEffect field now := by
        simp [Token.effect, hkind, hfield]
      rw [heffect, Token.fieldEffect]
      cases hclause : field.clause? token now with
      | error cause => exact Or.inl (Or.inr ⟨cause, rfl⟩)
      | ok found =>
        cases found with
        | none => exact Or.inl (Or.inl rfl)
        | some clause =>
          cases hnegation : token.isNegation with
          | true => exact Or.inl (Or.inl rfl)
          | false =>
            obtain ⟨name, _, hlookup⟩ := Option.bind_eq_some_iff.mp hfield
            refine Or.inr (Or.inr (Or.inr
              ⟨rfl, rfl, field, mem_of_lookup hlookup, clause, hclause, ?_⟩))
            cases clause <;> rfl

/-- A value that names no order names another field. -/
theorem sortOrder?_error_cases {value : List Char} {cause : Cause}
    (h : sortOrder? value = .error cause) :
    ∃ field, cause = .invalidSortField field sortableFields := by
  unfold sortOrder? at h
  dsimp only at h
  split at h
  · cases h
  · split at h
    · cases h
    · cases h
      exact ⟨_, rfl⟩

section

variable {token : Token} {schema : Schema} {now : Instant}

/-- A rejected token is a word on an unknown field, an order by a field that is not
sortable, or a filter that its field refuses. -/
theorem reject_cases {cause : Cause} (h : token.effect schema now = .reject cause) :
    (token.kind = .text ∧ ∃ name, schema.unknownName? token.raw.toList = some name ∧
      cause = .unknownField (String.ofList name)) ∨
    (token.kind = .sort ∧ ∃ field, cause = .invalidSortField field sortableFields) ∨
    (token.kind = .field ∧ ∃ field ∈ schema.fields,
      Field.clause? field token now = .error cause) := by
  cases hkind : token.kind with
  | text =>
    have heffect : token.effect schema now = token.textEffect schema := by
      simp [Token.effect, hkind]
    rw [heffect, Token.textEffect] at h
    split at h
    · next name hname =>
      cases h
      exact Or.inl ⟨rfl, name, hname, rfl⟩
    · split at h <;> cases h
  | operator => simp [Token.effect, hkind] at h
  | sort =>
    have heffect : token.effect schema now = token.sortEffect := by
      simp [Token.effect, hkind]
    rw [heffect, Token.sortEffect] at h
    split at h
    · cases h
    · cases h
    · next found hfound =>
      cases h
      exact Or.inr (Or.inl ⟨rfl, sortOrder?_error_cases hfound⟩)
  | field =>
    cases hfield : token.field.bind fun name => schema.lookup name.toList with
    | none => simp [Token.effect, hkind, hfield] at h
    | some field =>
      have heffect : token.effect schema now = token.fieldEffect field now := by
        simp [Token.effect, hkind, hfield]
      rw [heffect, Token.fieldEffect] at h
      obtain ⟨name, _, hlookup⟩ := Option.bind_eq_some_iff.mp hfield
      split at h
      · split at h
        · cases h
        · split at h <;> cases h
      · cases h
      · next found hfound =>
        cases h
        exact Or.inr (Or.inr ⟨rfl, field, mem_of_lookup hlookup, hfound⟩)

/-- A clause that a token contributes is one that a field makes of it. -/
theorem exists_clause?_of_effect {clause : Clause}
    (h : token.effect schema now = .clause clause) :
    ∃ field, Field.clause? field token now = .ok (some clause) := by
  rcases effect_cases token schema now with hidle | ⟨_, _, hword⟩ | ⟨_, order, _, hsort⟩ |
    ⟨_, _, field, _, found, hfound, hclause⟩
  · have hnone := hidle.parts.2.1
    rw [h] at hnone
    cases hnone
  · rw [h] at hword; cases hword
  · rw [h] at hsort; cases hsort
  · rw [h] at hclause
    cases found <;> cases hclause <;> exact ⟨field, hfound⟩

/-- A word that a token contributes is its value, or the text that a field makes of
it. -/
theorem word_cases_of_effect {word : String} (h : token.effect schema now = .word word) :
    (word = token.value ∧ word ≠ "") ∨
      ∃ field, Field.clause? field token now = .ok (some (.text word)) := by
  rcases effect_cases token schema now with hidle | ⟨_, hne, hword⟩ | ⟨_, order, _, hsort⟩ |
    ⟨_, _, field, _, found, hfound, hclause⟩
  · have hnone := hidle.parts.1
    rw [h] at hnone
    cases hnone
  · rw [h] at hword
    cases hword
    exact Or.inl ⟨rfl, hne⟩
  · rw [h] at hsort; cases hsort
  · rw [h] at hclause
    cases found <;> cases hclause
    exact Or.inr ⟨field, hfound⟩

/-- No token contributes an empty word. -/
theorem ne_empty_of_effect_word {word : String} (h : token.effect schema now = .word word) :
    word ≠ "" := by
  rcases word_cases_of_effect h with ⟨_, hne⟩ | ⟨field, hclause⟩
  · exact hne
  · exact (trim_of_clause?_text hclause).2

/-- A negated filter on a field is idle, whether it is accepted or not. -/
theorem isIdle_of_isNegation (hkind : token.kind = .field) (h : token.isNegation = true) :
    (token.effect schema now).IsIdle := by
  rcases effect_cases token schema now with hidle | ⟨htext, _⟩ | ⟨hsort, _⟩ |
    ⟨_, hnegation, _⟩
  · exact hidle
  · rw [hkind] at htext; cases htext
  · rw [hkind] at hsort; cases hsort
  · rw [h] at hnegation; cases hnegation

/-- The keyword of an alternative is idle. -/
theorem isIdle_of_operator (hkind : token.kind = .operator) :
    (token.effect schema now).IsIdle := by
  left
  simp [Token.effect, hkind]

/-- A filter whose value is blank is idle. -/
theorem isIdle_of_blank_value (hfilter : token.isFilter = true)
    (hvalue : Text.trim token.value.toList = []) : (token.effect schema now).IsIdle := by
  rcases effect_cases token schema now with hidle | ⟨htext, _⟩ | ⟨_, order, horder, _⟩ |
    ⟨_, _, field, _, clause, hclause, _⟩
  · exact hidle
  · simp [Token.isFilter, htext] at hfilter
  · simp [sortOrder?, hvalue] at horder
  · exact absurd hvalue (clause?_cases hclause).1

/-- A sort order contributes no word and no clause. -/
theorem parts_of_sort (hkind : token.kind = .sort) :
    (token.effect schema now).word? = none ∧ (token.effect schema now).clause? = none := by
  rcases effect_cases token schema now with hidle | ⟨htext, _⟩ | ⟨_, order, _, horder⟩ |
    ⟨hfield, _⟩
  · exact ⟨hidle.parts.1, hidle.parts.2.1⟩
  · rw [hkind] at htext; cases htext
  · rw [horder]
    exact ⟨rfl, rfl⟩
  · rw [hkind] at hfield; cases hfield

end

/-! ## Places -/

/-- What is wrong with a token, at its place. -/
def Token.diagnostic? (token : Token) (schema : Schema) (now : Instant) : Option Diagnostic :=
  (token.effect schema now).cause?.map fun cause =>
    Diagnostic.ofCause cause token.startIndex token.endIndex

/-- The diagnostic with its two offsets changed. -/
def Diagnostic.move (place : Nat → Nat) (diagnostic : Diagnostic) : Diagnostic :=
  { diagnostic with
    startIndex := place diagnostic.startIndex, endIndex := place diagnostic.endIndex }

/-- The same is wrong with a token that contributes the same at another place. -/
theorem diagnostic?_of_effect_eq {schema : Schema} {now : Instant} {token other : Token}
    {place : Nat → Nat} (heffect : other.effect schema now = token.effect schema now)
    (hstart : other.startIndex = place token.startIndex)
    (hend : other.endIndex = place token.endIndex) :
    other.diagnostic? schema now = (token.diagnostic? schema now).map (Diagnostic.move place) := by
  rw [Token.diagnostic?, Token.diagnostic?, heffect, hstart, hend, Option.map_map]
  rfl

/-- Tokens that contribute the same at other places mean the same. -/
theorem ofTokens_map {schema : Schema} {now : Instant} {change : Token → Token}
    {place : Nat → Nat} {tokens : List Token}
    (h : ∀ token ∈ tokens, (change token).effect schema now = token.effect schema now ∧
      (change token).startIndex = place token.startIndex ∧
      (change token).endIndex = place token.endIndex) :
    let meaning := Query.ofTokens schema now tokens
    Query.ofTokens schema now (tokens.map change) =
      { meaning with
        tokens := tokens.map change
        errors := meaning.errors.map (Diagnostic.move place) } := by
  have heffects : (tokens.map change).map (fun token => token.effect schema now) =
      tokens.map fun token => token.effect schema now := by
    rw [List.map_map]
    exact List.map_congr_left fun token hmem => (h token hmem).1
  have herrors : (tokens.map change).filterMap (·.diagnostic? schema now) =
      (tokens.filterMap (·.diagnostic? schema now)).map (Diagnostic.move place) := by
    rw [List.filterMap_map, List.map_filterMap]
    refine List.filterMap_congr fun token hmem => ?_
    obtain ⟨heffect, hstart, hend⟩ := h token hmem
    exact diagnostic?_of_effect_eq heffect hstart hend
  unfold Token.diagnostic? at herrors
  simp only [Query.ofTokens, heffects, herrors]

/-- The meaning of a query whose text stands at another place. -/
def Query.move (place : Nat → Nat) (query : Query) : Query :=
  { query with
    tokens := query.tokens.map (Token.move place)
    errors := query.errors.map (Diagnostic.move place) }

/-- Tokens mean the same at another place. -/
theorem ofTokens_move (schema : Schema) (now : Instant) (place : Nat → Nat)
    (tokens : List Token) :
    Query.ofTokens schema now (tokens.map (Token.move place)) =
      (Query.ofTokens schema now tokens).move place :=
  ofTokens_map fun token _ => ⟨effect_move token place schema now, rfl, rfl⟩

end IssueSearch
