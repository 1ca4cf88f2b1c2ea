import IssueSearch.Proofs.Filters.Overlay

/-!
# Ranges of numbers

The bounds of a search on one number are a range.  A comparison sets some of the bounds
and replaces what was there before, so a range that is laid over another one need not be
within it.

* `Range`, `Range.Admits`: the bounds on a number, and the numbers within them;
* `Range.lowers`, `Range.uppers`: the bounds as least and greatest numbers;
* `forall_admits_imp_iff`: one range is within another;
* `Filters.range`, `Range.ofComparison`: the range of a field, and the range of one
  comparison (`range_apply_number`);
* `Range.overlay`, `range_overlay`: a range that is laid over another one.
-/

namespace IssueSearch

/-- The bounds on a number; an absent one does not restrict it. -/
structure Range where
  gt : Option Int64 := none
  lt : Option Int64 := none
  gte : Option Int64 := none
  lte : Option Int64 := none
  deriving Repr, DecidableEq

namespace Range

/-! ## Numbers within a range -/

/-- The number keeps to every bound that is present. -/
def Admits (range : Range) (n : Int) : Prop :=
  (∀ bound ∈ range.gt, bound.toInt < n) ∧ (∀ bound ∈ range.lt, n < bound.toInt) ∧
    (∀ bound ∈ range.gte, bound.toInt ≤ n) ∧ (∀ bound ∈ range.lte, n ≤ bound.toInt)

/-- No number is within the range. -/
def IsEmpty (range : Range) : Prop :=
  ∀ n, ¬range.Admits n

/-- The least number that each lower bound leaves. -/
def lowers (range : Range) : List Int :=
  range.gt.toList.map (fun bound => bound.toInt + 1) ++ range.gte.toList.map Int64.toInt

/-- The greatest number that each upper bound leaves. -/
def uppers (range : Range) : List Int :=
  range.lt.toList.map (fun bound => bound.toInt - 1) ++ range.lte.toList.map Int64.toInt

/-- Every bound of the outer range follows from one of the inner range. -/
def IsWithin (inner outer : Range) : Prop :=
  (∀ low ∈ outer.lowers, ∃ least ∈ inner.lowers, low ≤ least) ∧
    ∀ high ∈ outer.uppers, ∃ greatest ∈ inner.uppers, greatest ≤ high

/-- A number is within a range if it lies between the least and the greatest numbers. -/
theorem admits_iff {range : Range} {n : Int} :
    range.Admits n ↔ (∀ low ∈ range.lowers, low ≤ n) ∧ ∀ high ∈ range.uppers, n ≤ high := by
  obtain ⟨gt, lt, gte, lte⟩ := range
  cases gt <;> cases lt <;> cases gte <;> cases lte <;>
    simp [Admits, lowers, uppers] <;> omega

/-- The numbers of one range are among those of another one if there are none, or if no
bound of the other range is closer. -/
theorem forall_admits_imp_iff {inner outer : Range} :
    (∀ n, inner.Admits n → outer.Admits n) ↔ inner.IsEmpty ∨ inner.IsWithin outer := by
  constructor
  · intro himp
    by_cases hempty : inner.IsEmpty
    · exact Or.inl hempty
    obtain ⟨n, hn⟩ := not_forall_not.mp hempty
    obtain ⟨hlow, hhigh⟩ := admits_iff.mp hn
    right
    -- a bound that follows from none of the inner ones would cut off the number beside it
    constructor
    · intro low hmem
      by_contra hnone
      push Not at hnone
      have hbeside : inner.Admits (min n (low - 1)) := by
        refine admits_iff.mpr ⟨fun least hleast => ?_, fun greatest hgreatest => ?_⟩
        · have hn := hlow least hleast
          have hless := hnone least hleast
          omega
        · have hn := hhigh greatest hgreatest
          omega
      have hkept := (admits_iff.mp (himp _ hbeside)).1 low hmem
      omega
    · intro high hmem
      by_contra hnone
      push Not at hnone
      have hbeside : inner.Admits (max n (high + 1)) := by
        refine admits_iff.mpr ⟨fun least hleast => ?_, fun greatest hgreatest => ?_⟩
        · have hn := hlow least hleast
          omega
        · have hn := hhigh greatest hgreatest
          have hless := hnone greatest hgreatest
          omega
      have hkept := (admits_iff.mp (himp _ hbeside)).2 high hmem
      omega
  · rintro (hempty | ⟨hlow, hhigh⟩) n hn
    · exact absurd hn (hempty n)
    · obtain ⟨hleast, hgreatest⟩ := admits_iff.mp hn
      refine admits_iff.mpr ⟨fun low hmem => ?_, fun high hmem => ?_⟩
      · obtain ⟨least, hmem, hle⟩ := hlow low hmem
        exact Int.le_trans hle (hleast least hmem)
      · obtain ⟨greatest, hmem, hle⟩ := hhigh high hmem
        exact Int.le_trans (hgreatest greatest hmem) hle

/-! ## Ranges one over the other -/

/-- The bounds of a range after those of an earlier one: it leaves those that it does not
set. -/
def overlay (earlier later : Range) : Range where
  gt := later.gt.or earlier.gt
  lt := later.lt.or earlier.lt
  gte := later.gte.or earlier.gte
  lte := later.lte.or earlier.lte

/-- A range after no bounds is the range itself. -/
theorem empty_overlay (range : Range) : ({} : Range).overlay range = range := by
  simp [overlay]

/-- The bounds of the later range hold in any case. -/
theorem Admits.of_overlay {earlier later : Range} {n : Int}
    (h : (earlier.overlay later).Admits n) : later.Admits n := by
  obtain ⟨hgt, hlt, hgte, hlte⟩ := h
  refine ⟨fun bound hbound => hgt bound ?_, fun bound hbound => hlt bound ?_,
    fun bound hbound => hgte bound ?_, fun bound hbound => hlte bound ?_⟩
  all_goals exact Option.or_eq_some_iff.mpr (Or.inl hbound)

/-- The range of a comparison on a field.  The bounds on users are strict, and an
equality is the open interval around its number. -/
def ofComparison (field : String) (n : Int64) : Operator → Range
  | .gt => { gt := some n }
  | .lt => { lt := some n }
  | .gte => { gte := some n }
  | .lte => { lte := some n }
  | .eq =>
      if field = "users" then { gt := some (Filters.before n), lt := some (Filters.behind n) }
      else { gte := some n, lte := some n }
  | .ne => {}

end Range

/-! ## Ranges of a search -/

/-- The bounds of a search on the number of events or of users. -/
def Filters.range (filters : Filters) (field : String) : Range :=
  if field = "count" then
    ⟨filters.countGt, filters.countLt, filters.countGte, filters.countLte⟩
  else if field = "users" then { gt := filters.usersGt, lt := filters.usersLt }
  else {}

/-- A search that restricts nothing has no bounds. -/
theorem range_empty (field : String) : Filters.empty.range field = {} := by
  unfold Filters.range
  split
  · rfl
  · split <;> rfl

/-- The range of an overlay is that of the later search after that of the earlier one. -/
theorem range_overlay (earlier later : Filters) (field : String) :
    (earlier.overlay later).range field = (earlier.range field).overlay (later.range field) := by
  unfold Filters.range
  split
  · rfl
  · split <;> rfl

/-- A comparison that its field allows adds its own range to the one before. -/
theorem range_apply_number (filters : Filters) {field : Field} {operator : Operator} (n : Int64)
    (hfield : field ∈ Schema.standard.fields) (htype : field.type = .number)
    (hallows : field.allows operator = true) :
    (filters.apply (.number field.name operator n)).range field.name =
      (filters.range field.name).overlay (Range.ofComparison field.name n operator) := by
  simp only [Schema.standard, List.mem_cons, List.not_mem_nil, or_false] at hfield
  rcases hfield with rfl | rfl | rfl | rfl | rfl | rfl | rfl | rfl <;> try cases htype
  · cases operator with
    | ne => cases hallows
    | _ => rfl
  · -- a bound on users that is not strict has no slot
    cases operator with
    | ne | gte | lte => cases hallows
    | _ => rfl

end IssueSearch
