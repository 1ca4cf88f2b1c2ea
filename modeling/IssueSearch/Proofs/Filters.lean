import IssueSearch.Filters
import IssueSearch.Proofs.Text.Integer
import IssueSearch.Proofs.Time.WireForm

/-!
# What the slots of a search hold

A clause that a field can accept keeps the slots sound: lists of values are not
empty and hold each allowed value once, bounds are not negative, and dates are in
their wire form.  Only the lower bound on users reaches -1, which is where the
open interval around 0 starts.

* `IsValueList`, `IsAtLeast`, `IsWireDate`: the slots one by one;
* `Filters.IsSound`, `Filters.IsParsed`, `Filters.IsWritable`: all of them, as
  reading leaves them and as they can be written;
* `Clause.IsSound`: what a clause has to fulfil;
* `IsParsed.apply`: the slots stay sound under each clause.
-/

namespace IssueSearch

open Time (Instant)

/-! ## Neighbours of an integer -/

namespace Filters

/-- The integer before one that is not negative. -/
theorem toInt_before {value : Int64} (h : 0 ≤ value.toInt) :
    (before value).toInt = value.toInt - 1 := by
  have hmin : value ≠ Int64.minValue := by
    rintro rfl
    exact absurd h (by decide)
  have hupper : value.toInt ≤ 9223372036854775807 := Int64.toInt_le value
  rw [before, if_neg hmin, Int64.toInt_sub, Int64.toInt_one]
  apply Int.bmod_eq_of_le <;> omega

/-- The integer behind one that is not the greatest. -/
theorem toInt_add_one {value : Int64} (h : value.toInt < 9223372036854775807) :
    (value + 1).toInt = value.toInt + 1 := by
  have hlower : -9223372036854775808 ≤ value.toInt := Int64.minValue_le_toInt value
  rw [Int64.toInt_add, Int64.toInt_one]
  apply Int.bmod_eq_of_le <;> omega

/-- The integer behind another one is greater, or there is none. -/
theorem behind_cases (value : Int64) :
    (value.toInt = 9223372036854775807 ∧ behind value = value) ∨
      (value.toInt < 9223372036854775807 ∧ (behind value).toInt = value.toInt + 1) := by
  have hupper : value.toInt ≤ 9223372036854775807 := Int64.toInt_le value
  by_cases hmax : value = Int64.maxValue
  · subst hmax
    exact Or.inl ⟨by decide, by decide⟩
  · have hne : value.toInt ≠ 9223372036854775807 := fun h => hmax (Int64.toInt_inj.mp h)
    have hlt : value.toInt < 9223372036854775807 := by omega
    refine Or.inr ⟨hlt, ?_⟩
    rw [behind, if_neg hmax, toInt_add_one hlt]

end Filters

/-! ## Slots -/

/-- A list of values is absent, or it is not empty and holds allowed values, each
once. -/
def IsValueList (allowed : List String) (values : Option (List String)) : Prop :=
  ∀ list ∈ values, list ≠ [] ∧ list.Nodup ∧ ∀ value ∈ list, value ∈ allowed

/-- A bound is absent or not below a least one. -/
def IsAtLeast (least : Int) (bound : Option Int64) : Prop :=
  ∀ n ∈ bound, least ≤ n.toInt

/-- A date is absent, or it is the wire form of an instant in the years 1 to
9999. -/
def IsWireDate (date : Option String) : Prop :=
  ∀ text ∈ date, ∃ moment : Instant, moment.isRepresentable = true ∧ text = moment.format

/-- The states of an issue. -/
def statusValues : List String :=
  ["unresolved", "resolved", "ignored"]

/-- The levels of an issue. -/
def levelValues : List String :=
  ["fatal", "error", "warning", "info"]

/-- The slots hold what filters on their fields can ask for; the bounds on users
are left open. -/
structure Filters.IsSound (filters : Filters) : Prop where
  status : IsValueList statusValues filters.status
  level : IsValueList levelValues filters.level
  countGt : IsAtLeast 0 filters.countGt
  countLt : IsAtLeast 0 filters.countLt
  countGte : IsAtLeast 0 filters.countGte
  countLte : IsAtLeast 0 filters.countLte
  firstSeenAfter : IsWireDate filters.firstSeenAfter
  firstSeenBefore : IsWireDate filters.firstSeenBefore
  lastSeenAfter : IsWireDate filters.lastSeenAfter
  lastSeenBefore : IsWireDate filters.lastSeenBefore

/-- The slots as reading leaves them. -/
structure Filters.IsParsed (filters : Filters) : Prop extends filters.IsSound where
  usersGt : IsAtLeast (-1) filters.usersGt
  usersLt : IsAtLeast 0 filters.usersLt

/-- The slots that have a written form: bounds on users are not negative, or they
are the open interval around 0. -/
structure Filters.IsWritable (filters : Filters) : Prop extends filters.IsSound where
  users : IsAtLeast 0 filters.usersGt ∧ IsAtLeast 0 filters.usersLt ∨
    filters.usersGt = some (-1) ∧ filters.usersLt = some 1

/-- The filter of a field that accepts it. -/
def Clause.IsSound : Clause → Prop
  | .enum field value =>
      (field = "is" → value ∈ statusValues) ∧ (field = "level" → value ∈ levelValues)
  | .number _ _ value => 0 ≤ value.toInt
  | .date _ operator moment =>
      moment.isRepresentable = true ∧
        (operator = .eq → ∃ next, moment.nextDay? = some next ∧ next.isRepresentable = true)
  | .text value => Text.IsWord value.toList

/-! ## Reading keeps the slots sound -/

theorem isValueList_none (allowed : List String) : IsValueList allowed none := by
  intro list hlist
  cases hlist

theorem isAtLeast_none (least : Int) : IsAtLeast least none := by
  intro n hn
  cases hn

theorem isAtLeast_some {least : Int} {n : Int64} (h : least ≤ n.toInt) :
    IsAtLeast least (some n) := by
  intro m hm
  cases hm
  exact h

theorem isWireDate_none : IsWireDate none := by
  intro text htext
  cases htext

theorem isWireDate_format {moment : Instant} (h : moment.isRepresentable = true) :
    IsWireDate (some moment.format) := by
  intro text htext
  exact ⟨moment, h, (Option.some.inj htext).symm⟩

/-- A list of values may grow by an allowed one. -/
theorem IsValueList.withValue {allowed : List String} {values : Option (List String)}
    {value : String} (h : IsValueList allowed values) (hvalue : value ∈ allowed) :
    IsValueList allowed (Filters.withValue values value) := by
  intro list hlist
  cases hlist
  by_cases hmem : (values.getD []).contains value = true
  · rw [if_pos hmem]
    cases values with
    | none => cases hmem
    | some present => exact h present rfl
  · rw [if_neg hmem]
    have hnew : value ∉ values.getD [] := by simpa using hmem
    cases values with
    | none => simp [hvalue]
    | some present =>
      obtain ⟨_, hnodup, hall⟩ := h present rfl
      refine ⟨by simp, ?_, fun other hother => ?_⟩
      · refine List.nodup_append.mpr ⟨hnodup, by simp, fun other hother last hlast => ?_⟩
        rw [List.mem_singleton.mp hlast]
        rintro rfl
        exact hnew hother
      · rcases List.mem_append.mp hother with hother | hother
        · exact hall other hother
        · rw [List.mem_singleton.mp hother]
          exact hvalue

/-- The bounds of a date stay in their wire form. -/
theorem isWireDate_dateBounds {after before : Option String} {moment : Instant}
    {operator : Operator} (hafter : IsWireDate after) (hbefore : IsWireDate before)
    (hmoment : moment.isRepresentable = true)
    (hnext : operator = .eq → ∃ next, moment.nextDay? = some next ∧
      next.isRepresentable = true) :
    IsWireDate (Filters.dateBounds after before moment operator).1 ∧
      IsWireDate (Filters.dateBounds after before moment operator).2 := by
  have hformat := isWireDate_format hmoment
  cases operator with
  | eq =>
    obtain ⟨next, hday, hrepresentable⟩ := hnext rfl
    refine ⟨hformat, ?_⟩
    simp only [Filters.dateBounds, hday, Option.map_some]
    exact isWireDate_format hrepresentable
  | gt => exact ⟨hformat, hbefore⟩
  | lt => exact ⟨hafter, hformat⟩
  | _ => exact ⟨hafter, hbefore⟩

namespace Filters

/-- No slot holds anything at first. -/
theorem isParsed_empty : empty.IsParsed where
  status := isValueList_none _
  level := isValueList_none _
  countGt := isAtLeast_none _
  countLt := isAtLeast_none _
  countGte := isAtLeast_none _
  countLte := isAtLeast_none _
  firstSeenAfter := isWireDate_none
  firstSeenBefore := isWireDate_none
  lastSeenAfter := isWireDate_none
  lastSeenBefore := isWireDate_none
  usersGt := isAtLeast_none _
  usersLt := isAtLeast_none _

/-- A bound on the number of events that is not negative keeps the slots sound. -/
theorem IsParsed.applyCount {filters : Filters} (h : filters.IsParsed) {value : Int64}
    (hvalue : 0 ≤ value.toInt) (operator : Operator) :
    (filters.applyCount value operator).IsParsed := by
  have hbound := isAtLeast_some hvalue
  cases operator with
  | eq => exact { h with countGte := hbound, countLte := hbound }
  | gt => exact { h with countGt := hbound }
  | lt => exact { h with countLt := hbound }
  | gte => exact { h with countGte := hbound }
  | lte => exact { h with countLte := hbound }
  | ne => exact h

/-- A bound on the number of users that is not negative keeps the slots sound. -/
theorem IsParsed.applyUsers {filters : Filters} (h : filters.IsParsed) {value : Int64}
    (hvalue : 0 ≤ value.toInt) (operator : Operator) :
    (filters.applyUsers value operator).IsParsed := by
  have hlow : IsAtLeast (-1) (some (before value)) := by
    refine isAtLeast_some ?_
    rw [toInt_before hvalue]
    omega
  have hhigh : IsAtLeast 0 (some (behind value)) := by
    refine isAtLeast_some ?_
    rcases behind_cases value with ⟨_, hsame⟩ | ⟨_, hnext⟩
    · rw [hsame]
      exact hvalue
    · omega
  cases operator with
  | eq => exact { h with usersGt := hlow, usersLt := hhigh }
  | gt => exact { h with usersGt := isAtLeast_some (by omega) }
  | lt => exact { h with usersLt := isAtLeast_some hvalue }
  | _ => exact h

/-- A sound clause keeps the slots sound. -/
theorem IsParsed.apply {filters : Filters} (h : filters.IsParsed) {clause : Clause}
    (hclause : clause.IsSound) : (filters.apply clause).IsParsed := by
  cases clause with
  | enum field value =>
    unfold Filters.apply
    dsimp only
    split
    · next hfield => exact { h with status := h.status.withValue (hclause.1 hfield) }
    · split
      · next hfield => exact { h with level := h.level.withValue (hclause.2 hfield) }
      · exact h
  | number field operator value =>
    unfold Filters.apply
    dsimp only
    split
    · exact h.applyCount hclause operator
    · split
      · exact h.applyUsers hclause operator
      · exact h
  | date field operator moment =>
    obtain ⟨hmoment, hnext⟩ := hclause
    unfold Filters.apply
    dsimp only
    split
    · have hbounds := isWireDate_dateBounds h.firstSeenAfter h.firstSeenBefore hmoment hnext
      exact { h with firstSeenAfter := hbounds.1, firstSeenBefore := hbounds.2 }
    · split
      · have hbounds := isWireDate_dateBounds h.lastSeenAfter h.lastSeenBefore hmoment hnext
        exact { h with lastSeenAfter := hbounds.1, lastSeenBefore := hbounds.2 }
      · exact h
  | text value => exact h

end Filters

end IssueSearch
