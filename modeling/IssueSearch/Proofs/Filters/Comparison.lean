import IssueSearch.Proofs.Canonical.Filter
import IssueSearch.Proofs.Filters.Range

/-!
# What a filter on a number means

A filter on a number leaves the numbers that stand to its own as its operator says.  The
bounds on users are strict, so that an equality is an interval with one number inside; above
the greatest integer there is no bound left, and the interval that ends there is empty.

* `Operator.Relates`: the relation of an operator;
* `exists_clause?_number_iff`: the clauses on numbers that a field makes;
* `Range.admits_ofComparison`: the numbers within the range of a comparison;
* `admits_apply_number_iff`: the numbers that a filter by itself leaves.
-/

namespace IssueSearch

open Time (Instant)

/-- How a number stands to that of a comparison. -/
def Operator.Relates : Operator → Int → Int → Prop
  | .eq, n, bound => n = bound
  | .gt, n, bound => bound < n
  | .lt, n, bound => n < bound
  | .gte, n, bound => bound ≤ n
  | .lte, n, bound => n ≤ bound
  | .ne, n, bound => n ≠ bound

/-! ## Clauses on numbers -/

/-- Only a field of numbers makes a clause on a number, with the integer that it reads. -/
theorem typedClause_eq_number {field : Field} {op : Operator} {text : String} {now : Instant}
    {name : String} {operator : Operator} {value : Int64}
    (h : field.typedClause op text now = .ok (some (.number name operator value))) :
    field.type = .number ∧ name = field.name ∧ operator = op ∧
      field.nonNegative text.toList = .ok value := by
  unfold Field.typedClause at h
  split at h
  · unfold Field.enumClause at h
    dsimp only at h
    split at h <;> cases h
  · next htype =>
    cases hread : field.nonNegative text.toList with
    | error cause => rw [hread] at h; cases h
    | ok n =>
      rw [hread] at h
      cases h
      exact ⟨htype, rfl, rfl, rfl⟩
  · split at h <;> cases h
  · cases h

/-- A field makes a clause on a number if it is a field of numbers: any operator that it
allows, with any integer of 64 bits that is not negative. -/
theorem exists_clause?_number_iff {field : Field} {name : String} {operator : Operator}
    {value : Int64} :
    (∃ token now, field.clause? token now = .ok (some (.number name operator value))) ↔
      field.type = .number ∧ name = field.name ∧ field.allows operator = true ∧
        0 ≤ value.toInt := by
  constructor
  · rintro ⟨token, now, h⟩
    rw [clause?_eq] at h
    split at h
    · cases h
    · split at h
      · next hallows =>
        obtain ⟨htype, hname, rfl, hread⟩ := typedClause_eq_number h
        exact ⟨htype, hname, hallows, (nonNegative_eq_ok_iff.mp hread).2⟩
      · cases h
  · rintro ⟨htype, rfl, hallows, hvalue⟩
    let token : Token :=
      { kind := .field, field := some field.name, operator := some operator
        value := String.ofList (Text.writeInteger value.toInt), negated := false, raw := ""
        startIndex := 0, endIndex := 0 }
    have htrim : Text.trim token.value.toList = Text.writeInteger value.toInt := by
      rw [String.toList_ofList]
      exact Text.trim_of_solid (isSolid_writeInteger value.toInt).1
    have hnumber : field.nonNegative (Text.writeInteger value.toInt) = .ok value := by
      rw [nonNegative_writeInteger, if_neg (Int.not_lt.mpr hvalue)]
    refine ⟨token, ⟨0, 0⟩, ?_⟩
    rw [clause?_eq, htrim, if_neg (Text.writeInteger_ne_nil value.toInt)]
    simp only [token, Option.getD_some, if_pos hallows]
    rw [Field.typedClause, htype, String.toList_ofList]
    dsimp only
    rw [hnumber]
    rfl

/-! ## The numbers within a comparison -/

namespace Range

/-- The open interval around a number holds this number and no other, or none at all if there
is no greater integer. -/
theorem admits_interval {value : Int64} (hvalue : 0 ≤ value.toInt) (n : Int) :
    Admits { gt := some (Filters.before value), lt := some (Filters.behind value) } n ↔
      n = value.toInt ∧ value ≠ Int64.maxValue := by
  have hbefore := Filters.toInt_before hvalue
  have hmax : value.toInt = 9223372036854775807 ↔ value = Int64.maxValue := by
    rw [← Int64.toInt_inj]
    rfl
  have hbounds : Admits { gt := some (Filters.before value), lt := some (Filters.behind value) } n ↔
      (Filters.before value).toInt < n ∧ n < (Filters.behind value).toInt := by
    simp [Admits]
  rw [hbounds, hbefore, ne_eq, ← hmax]
  rcases Filters.behind_cases value with ⟨hlast, hsame⟩ | ⟨hless, hnext⟩
  · rw [hsame]
    omega
  · rw [hnext]
    omega

/-- The range of a comparison holds the numbers that stand to its own as the operator says. -/
theorem admits_ofComparison (field : String) {operator : Operator} {value : Int64}
    (hoperator : operator ≠ .ne) (hvalue : 0 ≤ value.toInt) (n : Int) :
    (ofComparison field value operator).Admits n ↔
      operator.Relates n value.toInt ∧
        ¬(field = "users" ∧ operator = .eq ∧ value = Int64.maxValue) := by
  cases operator with
  | eq =>
    by_cases husers : field = "users"
    · rw [ofComparison, if_pos husers, admits_interval hvalue]
      simp [Operator.Relates, husers]
    · have hpoint : Admits { gte := some value, lte := some value } n ↔
          value.toInt ≤ n ∧ n ≤ value.toInt := by
        simp [Admits]
      rw [ofComparison, if_neg husers, hpoint]
      simp only [Operator.Relates, husers, false_and, not_false_eq_true, and_true]
      omega
  | ne => exact absurd rfl hoperator
  | _ => simp [ofComparison, Admits, Operator.Relates]

end Range

/-! ## A filter by itself -/

/-- No filter excludes a number. -/
theorem allows_ne_of_number {field : Field} (hfield : field ∈ Schema.standard.fields)
    (htype : field.type = .number) : field.allows .ne = false := by
  have hall : ∀ field ∈ Schema.standard.fields, field.type = .number →
      field.allows .ne = false := by
    decide
  exact hall field hfield htype

/-- The numbers that a filter on a number leaves, when it is the only one, stand to its own
number as its operator says; but the greatest integer is no number of users. -/
theorem admits_apply_number_iff {field : Field} (hfield : field ∈ Schema.standard.fields)
    {token : Token} {now : Instant} {name : String} {operator : Operator} {value : Int64}
    (h : field.clause? token now = .ok (some (.number name operator value))) (n : Int) :
    ((Filters.empty.apply (.number name operator value)).range name).Admits n ↔
      operator.Relates n value.toInt ∧
        ¬(name = "users" ∧ operator = .eq ∧ value = Int64.maxValue) := by
  obtain ⟨htype, rfl, hallows, hvalue⟩ := exists_clause?_number_iff.mp ⟨token, now, h⟩
  have hoperator : operator ≠ .ne := by
    rintro rfl
    rw [allows_ne_of_number hfield htype] at hallows
    cases hallows
  rw [range_apply_number Filters.empty value hfield htype hallows, range_empty,
    Range.empty_overlay]
  exact Range.admits_ofComparison field.name hoperator hvalue n

/-- The last number of users that can be asked for is the only one in its interval, which
ends at the greatest integer. -/
theorem admits_apply_number_iff_before_last :
    let query := "USER_COUNT:\" +09223372036854775806 \""
    let token : Token := ⟨.field, some "users", some .eq, " +09223372036854775806 ", false,
      query, 0, 36⟩
    let clause : Clause := .number "users" .eq 9223372036854775806
    Schema.standard.tokenize query = [token] ∧
      ∃ users ∈ Schema.standard.fields, users.clause? token ⟨0, 0⟩ = .ok (some clause) ∧
        ∀ n, ((Filters.empty.apply clause).range "users").Admits n ↔
          n = 9223372036854775806 := by
  intro query token clause
  let users := (Schema.standard.lookup "users".toList).getD default
  have hfield : users ∈ Schema.standard.fields := by decide
  have hclause : users.clause? token ⟨0, 0⟩ = .ok (some clause) := by decide +kernel
  refine ⟨by decide +kernel, users, hfield, hclause, fun n => ?_⟩
  have hvalue : (9223372036854775806 : Int64).toInt = 9223372036854775806 := by decide
  have hless : (9223372036854775806 : Int64) ≠ Int64.maxValue := by decide
  rw [admits_apply_number_iff hfield hclause n, hvalue]
  simp [Operator.Relates, hless]

/-- The greatest integer is accepted as a number of users, but the filter does not leave it:
its interval ends there, as no bound is greater. -/
theorem exists_unadmitted_equal :
    let query := "users:9223372036854775807"
    let token : Token := ⟨.field, some "users", some .eq, "9223372036854775807", false, query,
      0, 25⟩
    let clause : Clause := .number "users" .eq 9223372036854775807
    Schema.standard.tokenize query = [token] ∧
      ∃ users ∈ Schema.standard.fields, users.clause? token ⟨0, 0⟩ = .ok (some clause) ∧
        Operator.eq.Relates 9223372036854775807 (9223372036854775807 : Int64).toInt ∧
        ¬((Filters.empty.apply clause).range "users").Admits 9223372036854775807 := by
  intro query token clause
  let users := (Schema.standard.lookup "users".toList).getD default
  refine ⟨by decide +kernel, users, by decide, by decide +kernel, ?_, ?_⟩
  · show (9223372036854775807 : Int) = (9223372036854775807 : Int64).toInt
    decide
  · have hrange : (Filters.empty.apply clause).range "users" =
        { gt := some 9223372036854775806, lt := some Int64.maxValue } := by
      decide
    rw [hrange]
    rintro ⟨_, hupper, _⟩
    exact absurd (hupper Int64.maxValue rfl) (by decide)

end IssueSearch
