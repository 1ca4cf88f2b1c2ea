import IssueSearch.Proofs.Filters.Range
import IssueSearch.Proofs.Query.Append

/-!
# A further bound on a number

A comparison behind a query holds in any case.  It replaces the bounds of its own slots
and leaves the others, so that it narrows the search unless a bound that it replaces was
closer.

* `Token.IsRangeOf`: the range that a token asks for;
* `isRangeOf_ofTokens`: what an accepted comparison leaves by itself;
* `narrows_iff`: the range of a query with a comparison behind it, and when it is within
  the range of the query alone.
-/

namespace IssueSearch

open Time (Instant)

/-! ## One comparison -/

/-- The range is the one that a token asks for: none while its value is blank, else that
of a comparison with a number. -/
def Token.IsRangeOf (token : Token) (field : String) (range : Range) : Prop :=
  (Text.trim token.value.toList = [] ∧ range = {}) ∨
    ∃ n : Int64, Text.readInteger? (Text.trim token.value.toList) = some n.toInt ∧
      0 ≤ n.toInt ∧ range = Range.ofComparison field n (token.operator.getD .eq)

/-- The fields of numbers are found under their names. -/
theorem exists_number_field {name : String} (h : name = "count" ∨ name = "users") :
    ∃ field ∈ Schema.standard.fields, Schema.standard.lookup name.toList = some field ∧
      field.name = name ∧ field.type = .number := by
  rcases h with rfl | rfl <;> decide

/-- A token by itself is accepted if it has no cause to be rejected. -/
theorem errors_ofTokens_singleton {schema : Schema} {now : Instant} {token : Token} :
    (Query.ofTokens schema now [token]).errors = [] ↔
      (token.effect schema now).cause? = none := by
  simp [Query.ofTokens]

/-- A token by itself leaves the slots of its clause, if it contributes one. -/
theorem range_ofTokens_singleton (schema : Schema) (now : Instant) (token : Token)
    (field : String) :
    (Query.ofTokens schema now [token]).filters.range field =
      (Filters.ofClauses (token.effect schema now).clause?.toList).range field := by
  cases hclause : (token.effect schema now).clause? <;>
    simp [Query.ofTokens, hclause, Filters.range]

/-- An accepted comparison that is not negated leaves the range that it asks for. -/
theorem isRangeOf_ofTokens {token : Token} {name : String} {now : Instant}
    (hkind : token.kind = .field) (hname : token.field = some name)
    (hnumber : name = "count" ∨ name = "users") (hnegation : token.isNegation = false)
    (haccepted : (Query.ofTokens .standard now [token]).errors = []) :
    token.IsRangeOf name ((Query.ofTokens .standard now [token]).filters.range name) := by
  obtain ⟨field, hfield, hlookup, rfl, htype⟩ := exists_number_field hnumber
  have heffect : token.effect .standard now = token.fieldEffect field now := by
    simp [Token.effect, hkind, hname, hlookup]
  rw [errors_ofTokens_singleton, heffect, Token.fieldEffect] at haccepted
  rw [range_ofTokens_singleton, heffect, Token.fieldEffect, hnegation]
  cases hclause : field.clause? token now with
  | error cause =>
    rw [hclause] at haccepted
    cases haccepted
  | ok found =>
    rw [clause?_eq] at hclause
    split at hclause
    · next hblank =>
      cases hclause
      exact Or.inl ⟨hblank, range_empty field.name⟩
    · split at hclause
      · next hallows =>
        rw [Field.typedClause, htype, String.toList_ofList] at hclause
        dsimp only at hclause
        cases hread : field.nonNegative (Text.trim token.value.toList) with
        | error cause => rw [hread] at hclause; cases hclause
        | ok n =>
          rw [hread] at hclause
          cases hclause
          obtain ⟨hinteger, hsign⟩ := nonNegative_eq_ok_iff.mp hread
          refine Or.inr ⟨n, hinteger, hsign, ?_⟩
          have hrange := range_apply_number Filters.empty n hfield htype hallows
          rwa [range_empty, Range.empty_overlay] at hrange
      · cases hclause

/-! ## A comparison behind a query -/

/-- A comparison on events or users that stands behind a query and is accepted.  It holds
of every number that is left, and of the bounds of the query it leaves those that it does
not set itself; so the numbers that are left are among those of the query if and only if
there are none or no bound of the query was closer. -/
theorem narrows_iff (now : Instant) (query comparison : String) (token : Token) (name : String)
    (hlast : ∀ last ∈ (Schema.standard.tokenize query).getLast?, last.isEnded = true)
    (htokens : Schema.standard.tokenize comparison = [token]) (hkind : token.kind = .field)
    (hname : token.field = some name) (hnumber : name = "count" ∨ name = "users")
    (hnegation : token.isNegation = false)
    (haccepted : (Schema.standard.parse now comparison).errors = []) :
    let own := (Schema.standard.parse now comparison).filters.range name
    let earlier := (Schema.standard.parse now query).filters.range name
    let joined := (Schema.standard.parse now (query ++ " " ++ comparison)).filters.range name
    token.IsRangeOf name own ∧ joined = earlier.overlay own ∧
      (∀ n, joined.Admits n → own.Admits n) ∧
      ((∀ n, joined.Admits n → earlier.Admits n) ↔
        joined.IsEmpty ∨ joined.IsWithin earlier) := by
  intro own earlier joined
  have hspace : ∀ c ∈ " ".toList, Text.isBlank c = true :=
    List.forall_mem_singleton.mpr (by decide)
  have hjoined : joined = earlier.overlay own := by
    show (Schema.standard.parse now (query ++ " " ++ comparison)).filters.range name = _
    rw [parse_append .standard now query " " comparison (by decide) hspace hlast]
    exact range_overlay _ _ name
  refine ⟨?_, hjoined, fun n hn => ?_, Range.forall_admits_imp_iff⟩
  · show token.IsRangeOf name ((Schema.standard.parse now comparison).filters.range name)
    rw [Schema.parse, htokens] at haccepted ⊢
    exact isRangeOf_ofTokens hkind hname hnumber hnegation haccepted
  · rw [hjoined] at hn
    exact hn.of_overlay

/-- One end of an interval is replaced, behind a phrase that is closed. -/
theorem narrows_iff_alias :
    let query := "count:4 users:<9 \"né OR\""
    let token : Token := ⟨.field, some "count", some .gte, "2", false, "EVENTS:>=2", 0, 10⟩
    let own := (Schema.standard.parse ⟨0, 0⟩ "EVENTS:>=2").filters.range "count"
    let earlier := (Schema.standard.parse ⟨0, 0⟩ query).filters.range "count"
    let joined := (Schema.standard.parse ⟨0, 0⟩ (query ++ " " ++ "EVENTS:>=2")).filters.range
      "count"
    ((∀ last ∈ (Schema.standard.tokenize query).getLast?, last.isEnded = true) ∧
      Schema.standard.tokenize "EVENTS:>=2" = [token] ∧
      (Schema.standard.parse ⟨0, 0⟩ "EVENTS:>=2").errors = []) ∧
      token.IsRangeOf "count" own ∧ joined = earlier.overlay own ∧
      (∀ n, joined.Admits n → own.Admits n) ∧
      ((∀ n, joined.Admits n → earlier.Admits n) ↔
        joined.IsEmpty ∨ joined.IsWithin earlier) := by
  intro query token own earlier joined
  have hlast : ∀ last ∈ (Schema.standard.tokenize query).getLast?, last.isEnded = true := by
    decide +kernel
  have htokens : Schema.standard.tokenize "EVENTS:>=2" = [token] := by
    decide +kernel
  have haccepted : (Schema.standard.parse ⟨0, 0⟩ "EVENTS:>=2").errors = [] := by
    decide +kernel
  exact ⟨⟨hlast, htokens, haccepted⟩,
    narrows_iff ⟨0, 0⟩ query "EVENTS:>=2" token "count" hlast htokens rfl rfl (Or.inl rfl) rfl
      haccepted⟩

/-- Behind a closer bound in the same slot, a comparison lets 4 in, which the query alone
excludes. -/
theorem exists_widening_bound :
    let query := "count:>5"
    let token : Token := ⟨.field, some "count", some .gt, "3", false, "count:>3", 0, 8⟩
    ((∀ last ∈ (Schema.standard.tokenize query).getLast?, last.isEnded = true) ∧
      Schema.standard.tokenize "count:>3" = [token] ∧
      (Schema.standard.parse ⟨0, 0⟩ "count:>3").errors = []) ∧
      ((Schema.standard.parse ⟨0, 0⟩ (query ++ " " ++ "count:>3")).filters.range
        "count").Admits 4 ∧
      ¬((Schema.standard.parse ⟨0, 0⟩ query).filters.range "count").Admits 4 := by
  intro query token
  have hjoined : (Schema.standard.parse ⟨0, 0⟩ (query ++ " " ++ "count:>3")).filters.range
      "count" = { gt := some 3 } := by
    decide +kernel
  have hearlier : (Schema.standard.parse ⟨0, 0⟩ query).filters.range "count" =
      { gt := some 5 } := by
    decide +kernel
  refine ⟨by decide +kernel, ?_, fun hadmits => ?_⟩
  · rw [hjoined]
    simp [Range.Admits]
  · rw [hearlier] at hadmits
    simpa using hadmits.1 5 rfl

end IssueSearch
