import IssueSearch.Proofs.Filters
import IssueSearch.Proofs.Time.Offset
import Mathlib.Data.List.Basic
import Mathlib.Data.List.Induction

/-!
# Every slot by itself

Clauses are folded into all slots at once, yet each slot depends on the clauses of its own
field alone.  Of those that write a bound the last one decides; a list holds every value at
the place where it came first.

* `Clause.value?`, `Clause.number?`, `Clause.moment?`: what a slot reads of a clause;
* `lastOf`, `listed`, `saturated`, `windowEnd?`: what becomes of it;
* `Filters.perSlot`: the slots, each as a function of the clauses;
* `apply_eq`: the slots after one clause, and `ofClauses_eq_perSlot`, after all;
* `ofClauses_congr`: only the order within each field counts;
* `ofClauses_slots`: these together.
-/

namespace IssueSearch

open Time (Instant)

/-! ## What a slot reads of a clause -/

namespace Clause

/-- The field of a clause; a text stands for no field. -/
def field? : Clause → Option String
  | .enum field _ => some field
  | .number field _ _ => some field
  | .date field _ _ => some field
  | .text _ => none

/-- The value of a clause on a field that lists values. -/
def value? (name : String) : Clause → Option String
  | .enum field value => if field = name then some value else none
  | _ => none

/-- The number of a clause on a field of numbers, with its operator if that is one of
these. -/
def number? (name : String) (operators : List Operator) : Clause → Option (Operator × Int64)
  | .number field operator value =>
      if field = name ∧ operator ∈ operators then some (operator, value) else none
  | _ => none

/-- The instant of a clause on a field of dates, with its operator if that is one of
these. -/
def moment? (name : String) (operators : List Operator) : Clause → Option (Operator × Instant)
  | .date field operator moment =>
      if field = name ∧ operator ∈ operators then some (operator, moment) else none
  | _ => none

/-- An instant is read of a clause on the field that has one of the operators. -/
theorem moment?_eq_some_iff {clause : Clause} {name : String} {operators : List Operator}
    {operator : Operator} {moment : Instant} :
    clause.moment? name operators = some (operator, moment) ↔
      clause = .date name operator moment ∧ operator ∈ operators := by
  cases clause with
  | date field op start =>
    simp only [moment?, Option.ite_none_right_eq_some, Option.some.injEq, Prod.mk.injEq,
      date.injEq]
    constructor
    · rintro ⟨⟨rfl, hmem⟩, rfl, rfl⟩
      exact ⟨⟨rfl, rfl, rfl⟩, hmem⟩
    · rintro ⟨⟨rfl, rfl, rfl⟩, hmem⟩
      exact ⟨⟨rfl, hmem⟩, rfl, rfl⟩
  | _ => simp [moment?]

/-- There is a slot for what the clause asks for. -/
def HasSlot : Clause → Prop
  | .enum field _ => field ∈ ["is", "level"]
  | .number field operator _ =>
      field = "count" ∧ operator ≠ .ne ∨ field = "users" ∧ operator ∈ [.eq, .gt, .lt]
  | .date field operator _ => field ∈ ["first_seen", "last_seen"] ∧ operator ∈ [.eq, .gt, .lt]
  | .text _ => False

/-- Only clauses on a field are read. -/
def IsOnly {α : Type} (read : Clause → Option α) (name : String) : Prop :=
  ∀ clause, clause.field? ≠ some name → read clause = none

/-- Values are read of clauses on their field only. -/
theorem isOnly_value? (name : String) : IsOnly (value? name) name := by
  intro clause hfield
  cases clause with
  | enum field value => simp_all [field?, value?]
  | _ => rfl

/-- Numbers are read of clauses on their field only. -/
theorem isOnly_number? (name : String) (operators : List Operator) :
    IsOnly (number? name operators) name := by
  intro clause hfield
  cases clause with
  | number field operator value => simp_all [field?, number?]
  | _ => rfl

/-- Instants are read of clauses on their field only. -/
theorem isOnly_moment? (name : String) (operators : List Operator) :
    IsOnly (moment? name operators) name := by
  intro clause hfield
  cases clause with
  | date field operator moment => simp_all [field?, moment?]
  | _ => rfl

end Clause

/-! ## What becomes of it -/

/-- What is read of the last clause of which anything is read. -/
def lastOf {α : Type} (read : Clause → Option α) (clauses : List Clause) : Option α :=
  (clauses.filterMap read).getLast?

/-- The values, each where it came first, or nothing if there are none. -/
def listed (values : List String) : Option (List String) :=
  if values = [] then none else some values.eraseDups

/-- The integer of 64 bits that is closest to an integer. -/
def saturated (n : Int) : Int64 :=
  Int64.ofInt (max Int64.minValue.toInt (min Int64.maxValue.toInt n))

/-- The strict lower bound of a comparison; an equality starts one below its number. -/
def lowerEnd : Operator × Int64 → Int64
  | (.eq, n) => saturated (n.toInt - 1)
  | (_, n) => n

/-- The strict upper bound of a comparison; an equality ends one above its number. -/
def upperEnd : Operator × Int64 → Int64
  | (.eq, n) => saturated (n.toInt + 1)
  | (_, n) => n

/-- The upper bound of a date; an equality ends one day later, if that is in a year that
calculations reach.  A leap second has no counterpart on the next day. -/
def windowEnd? : Operator × Instant → Option String
  | (.eq, moment) =>
      let next : Instant := ⟨moment.seconds + 86400, moment.nanos % 1000000000⟩
      if -262143 ≤ next.year ∧ next.year ≤ 262142 then some next.format else none
  | (_, moment) => some moment.format

/-- The slots, each as a function of the clauses. -/
def Filters.perSlot (clauses : List Clause) : Filters where
  status := listed (clauses.filterMap (Clause.value? "is"))
  level := listed (clauses.filterMap (Clause.value? "level"))
  countGt := (lastOf (Clause.number? "count" [.gt]) clauses).map Prod.snd
  countLt := (lastOf (Clause.number? "count" [.lt]) clauses).map Prod.snd
  countGte := (lastOf (Clause.number? "count" [.gte, .eq]) clauses).map Prod.snd
  countLte := (lastOf (Clause.number? "count" [.lte, .eq]) clauses).map Prod.snd
  usersGt := (lastOf (Clause.number? "users" [.gt, .eq]) clauses).map lowerEnd
  usersLt := (lastOf (Clause.number? "users" [.lt, .eq]) clauses).map upperEnd
  firstSeenAfter := (lastOf (Clause.moment? "first_seen" [.gt, .eq]) clauses).map (·.2.format)
  firstSeenBefore := (lastOf (Clause.moment? "first_seen" [.lt, .eq]) clauses).bind windowEnd?
  lastSeenAfter := (lastOf (Clause.moment? "last_seen" [.gt, .eq]) clauses).map (·.2.format)
  lastSeenBefore := (lastOf (Clause.moment? "last_seen" [.lt, .eq]) clauses).bind windowEnd?
  text := none

/-- A further clause is the last one if anything is read of it. -/
theorem lastOf_concat {α : Type} (read : Clause → Option α) (clauses : List Clause)
    (clause : Clause) :
    lastOf read (clauses ++ [clause]) = (read clause).or (lastOf read clauses) := by
  cases hread : read clause <;> simp [lastOf, List.filterMap_append, hread]

/-- A further value is listed at the end unless it has been there. -/
theorem listed_concat (values : List String) (value : String) :
    listed (values ++ [value]) = Filters.withValue (listed values) value := by
  have hpresent : (listed values).getD [] = values.eraseDups := by
    cases values <;> simp [listed]
  have hne : values ++ [value] ≠ [] := by simp
  have hone : [value].eraseDups = [value] := by simp [List.eraseDups_cons]
  rw [Filters.withValue, hpresent, listed, if_neg hne, List.eraseDups_append]
  by_cases hmem : value ∈ values
  · simp [hmem, List.removeAll]
  · simp [hmem, List.removeAll, hone]

/-- The integer below another one, or this one if it is the least. -/
theorem saturated_sub_one (n : Int64) : saturated (n.toInt - 1) = Filters.before n := by
  have hlow : Int64.minValue.toInt ≤ n.toInt := Int64.minValue_le_toInt n
  have hhigh : n.toInt ≤ Int64.maxValue.toInt := Int64.toInt_le n
  rw [Filters.before, saturated]
  split
  · next hmin =>
    subst hmin
    decide
  · next hmin =>
    have hne : n.toInt ≠ Int64.minValue.toInt := fun h => hmin (Int64.toInt_inj.mp h)
    have hexact : max Int64.minValue.toInt (min Int64.maxValue.toInt (n.toInt - 1)) =
        n.toInt - 1 := by
      omega
    rw [hexact, Int64.ofInt_sub, Int64.ofInt_toInt]
    rfl

/-- The integer above another one, or this one if it is the greatest. -/
theorem saturated_add_one (n : Int64) : saturated (n.toInt + 1) = Filters.behind n := by
  have hlow : Int64.minValue.toInt ≤ n.toInt := Int64.minValue_le_toInt n
  have hhigh : n.toInt ≤ Int64.maxValue.toInt := Int64.toInt_le n
  rw [Filters.behind, saturated]
  split
  · next hmax =>
    subst hmax
    decide
  · next hmax =>
    have hne : n.toInt ≠ Int64.maxValue.toInt := fun h => hmax (Int64.toInt_inj.mp h)
    have hexact : max Int64.minValue.toInt (min Int64.maxValue.toInt (n.toInt + 1)) =
        n.toInt + 1 := by
      omega
    rw [hexact, Int64.ofInt_add, Int64.ofInt_toInt]
    rfl

/-- The end of a day is the instant one day later, if this can be calculated with. -/
theorem windowEnd?_eq (moment : Instant) :
    windowEnd? (.eq, moment) = moment.nextDay?.map Instant.format := by
  have hnext : moment.nextDay? =
      Instant.checked? ⟨moment.seconds + 86400, moment.nanos % 1000000000⟩ := rfl
  simp only [windowEnd?, ← Instant.isSupported_iff]
  rw [hnext, Instant.checked?]
  split <;> rfl

/-! ## One clause -/

namespace Filters

/-- The slots after a clause, each from what it reads of the clause and from what it held. -/
theorem apply_eq (filters : Filters) (clause : Clause) :
    filters.apply clause = {
      status := (clause.value? "is").elim filters.status (withValue filters.status)
      level := (clause.value? "level").elim filters.level (withValue filters.level)
      countGt := ((clause.number? "count" [.gt]).map Prod.snd).or filters.countGt
      countLt := ((clause.number? "count" [.lt]).map Prod.snd).or filters.countLt
      countGte := ((clause.number? "count" [.gte, .eq]).map Prod.snd).or filters.countGte
      countLte := ((clause.number? "count" [.lte, .eq]).map Prod.snd).or filters.countLte
      usersGt := ((clause.number? "users" [.gt, .eq]).map lowerEnd).or filters.usersGt
      usersLt := ((clause.number? "users" [.lt, .eq]).map upperEnd).or filters.usersLt
      firstSeenAfter :=
        ((clause.moment? "first_seen" [.gt, .eq]).map (·.2.format)).or filters.firstSeenAfter
      firstSeenBefore :=
        (clause.moment? "first_seen" [.lt, .eq]).elim filters.firstSeenBefore windowEnd?
      lastSeenAfter :=
        ((clause.moment? "last_seen" [.gt, .eq]).map (·.2.format)).or filters.lastSeenAfter
      lastSeenBefore :=
        (clause.moment? "last_seen" [.lt, .eq]).elim filters.lastSeenBefore windowEnd?
      text := filters.text } := by
  cases clause with
  | enum field value =>
    by_cases hstatus : field = "is"
    · subst hstatus
      rfl
    · by_cases hlevel : field = "level"
      · subst hlevel
        rfl
      · simp [apply, Clause.value?, Clause.number?, Clause.moment?, hstatus, hlevel]
  | number field operator value =>
    by_cases hcount : field = "count"
    · subst hcount
      cases operator <;> rfl
    · by_cases husers : field = "users"
      · subst husers
        cases operator with
        | eq =>
          simp [apply, applyUsers, Clause.value?, Clause.number?, Clause.moment?, lowerEnd,
            upperEnd, saturated_sub_one, saturated_add_one]
        | _ => rfl
      · simp [apply, Clause.value?, Clause.number?, Clause.moment?, hcount, husers]
  | date field operator moment =>
    by_cases hfirst : field = "first_seen"
    · subst hfirst
      cases operator with
      | eq =>
        simp [apply, dateBounds, Clause.value?, Clause.number?, Clause.moment?, windowEnd?_eq]
      | _ => rfl
    · by_cases hlast : field = "last_seen"
      · subst hlast
        cases operator with
        | eq =>
          simp [apply, dateBounds, Clause.value?, Clause.number?, Clause.moment?, windowEnd?_eq]
        | _ => rfl
      · simp [apply, Clause.value?, Clause.number?, Clause.moment?, hfirst, hlast]
  | text value => rfl

/-- A further clause changes the slots as it changes any others. -/
theorem perSlot_concat (clauses : List Clause) (clause : Clause) :
    perSlot (clauses ++ [clause]) = (perSlot clauses).apply clause := by
  have hlisted : ∀ read : Clause → Option String,
      listed ((clauses ++ [clause]).filterMap read) =
        (read clause).elim (listed (clauses.filterMap read))
          (withValue (listed (clauses.filterMap read))) := by
    intro read
    rw [List.filterMap_append]
    cases hread : read clause with
    | none => simp [hread]
    | some value => simp [hread, listed_concat]
  have hbind : ∀ found before : Option (Operator × Instant),
      (found.or before).bind windowEnd? = found.elim (before.bind windowEnd?) windowEnd? := by
    intro found before
    cases found <;> rfl
  rw [apply_eq]
  simp only [perSlot, hlisted, lastOf_concat, Option.map_or, hbind]

/-- The slots after all clauses, each by itself. -/
theorem ofClauses_eq_perSlot (clauses : List Clause) : ofClauses clauses = perSlot clauses := by
  induction clauses using List.reverseRecOn with
  | nil => rfl
  | append_singleton clauses clause ih =>
    rw [perSlot_concat, ← ih, ofClauses, ofClauses, List.foldl_concat]

/-- A clause that has no slot changes nothing. -/
theorem apply_of_not_hasSlot (filters : Filters) {clause : Clause} (h : ¬clause.HasSlot) :
    filters.apply clause = filters := by
  cases clause with
  | enum field value =>
    have hfield : field ≠ "is" ∧ field ≠ "level" := by simpa [Clause.HasSlot] using h
    simp [apply, hfield]
  | number field operator value =>
    obtain ⟨hcount, husers⟩ := not_or.mp h
    by_cases hfield : field = "count"
    · have hoperator : operator = .ne := not_not.mp fun hne => hcount ⟨hfield, hne⟩
      simp [apply, applyCount, hfield, hoperator]
    · by_cases hfield' : field = "users"
      · have hoperator : operator ∉ [.eq, .gt, .lt] := fun hmem => husers ⟨hfield', hmem⟩
        cases operator <;> simp_all [apply, applyUsers]
      · simp [apply, hfield, hfield']
  | date field operator moment =>
    have hbounds : field ∈ ["first_seen", "last_seen"] →
        ∀ after before, dateBounds after before moment operator = (after, before) := by
      intro hfield after before
      have hoperator : operator ∉ [.eq, .gt, .lt] := fun hmem => h ⟨hfield, hmem⟩
      cases operator <;> simp_all [dateBounds]
    by_cases hfirst : field = "first_seen"
    · simp [apply, hfirst, hbounds (by simp [hfirst])]
    · by_cases hlast : field = "last_seen"
      · simp [apply, hlast, hbounds (by simp [hlast])]
      · simp [apply, hfirst, hlast]
  | text value => rfl

/-- A clause once more changes nothing. -/
theorem apply_apply_self (filters : Filters) (clause : Clause) :
    (filters.apply clause).apply clause = filters.apply clause := by
  have hvalue : ∀ (found : Option String) (values : Option (List String)),
      found.elim (found.elim values (withValue values))
        (withValue (found.elim values (withValue values))) =
        found.elim values (withValue values) := by
    intro found values
    cases found with
    | none => rfl
    | some value =>
      by_cases hmem : value ∈ values.getD [] <;> simp [withValue, hmem]
  have hbound : ∀ (found : Option (Operator × Instant)) (before : Option String),
      found.elim (found.elim before windowEnd?) windowEnd? = found.elim before windowEnd? := by
    intro found before
    cases found <;> rfl
  simp only [apply_eq, hvalue, hbound, ← Option.or_assoc, Option.or_self]

/-! ## Rows of clauses -/

/-- What is read of the clauses on one field does not depend on the others. -/
theorem filterMap_of_isOnly {α : Type} {read : Clause → Option α} {name : String}
    (h : Clause.IsOnly read name) (clauses : List Clause) :
    (clauses.filter fun clause => clause.field? = some name).filterMap read =
      clauses.filterMap read := by
  rw [List.filterMap_filter]
  refine List.filterMap_congr fun clause _ => ?_
  by_cases hfield : clause.field? = some name
  · simp [hfield]
  · simp [hfield, h clause hfield]

/-- Rows with the same clauses on each field leave the same slots. -/
theorem ofClauses_congr {first second : List Clause}
    (h : ∀ name, (first.filter fun clause => clause.field? = some name) =
      second.filter fun clause => clause.field? = some name) :
    ofClauses first = ofClauses second := by
  have hread : ∀ {α : Type} {read : Clause → Option α} {name : String},
      Clause.IsOnly read name → first.filterMap read = second.filterMap read := by
    intro α read name hread
    rw [← filterMap_of_isOnly hread, h, filterMap_of_isOnly hread]
  simp only [ofClauses_eq_perSlot, perSlot, lastOf, hread (Clause.isOnly_value? _),
    hread (Clause.isOnly_number? _ _), hread (Clause.isOnly_moment? _ _)]

/-- Clauses on different fields can change places. -/
theorem ofClauses_swap (before : List Clause) {first second : Clause} (after : List Clause)
    (h : first.field? ≠ second.field?) :
    ofClauses (before ++ first :: second :: after) =
      ofClauses (before ++ second :: first :: after) := by
  refine ofClauses_congr fun name => ?_
  have hnot : ¬(first.field? = some name ∧ second.field? = some name) :=
    fun hboth => h (hboth.1.trans hboth.2.symm)
  rw [List.filter_append, List.filter_append]
  congr 1
  by_cases hfirst : first.field? = some name <;> by_cases hsecond : second.field? = some name <;>
    simp_all

/-- The slots after a row of clauses, each by itself.  A clause without a slot changes
nothing and neither does a clause once more; clauses on different fields can change
places. -/
theorem ofClauses_slots (row : List Clause) :
    ofClauses row = perSlot row ∧
      (∀ (clause : Clause) (after : List Clause), ¬clause.HasSlot →
        ofClauses (row ++ clause :: after) = ofClauses (row ++ after)) ∧
      (∀ (clause : Clause) (after : List Clause),
        ofClauses (row ++ clause :: clause :: after) = ofClauses (row ++ clause :: after)) ∧
      ∀ (first second : Clause) (after : List Clause), first.field? ≠ second.field? →
        ofClauses (row ++ first :: second :: after) =
          ofClauses (row ++ second :: first :: after) := by
  refine ⟨ofClauses_eq_perSlot row, fun clause after hslot => ?_, fun clause after => ?_,
    fun first second after hfield => ofClauses_swap row after hfield⟩
  · simp only [ofClauses, List.foldl_append, List.foldl_cons, apply_of_not_hasSlot _ hslot]
  · simp only [ofClauses, List.foldl_append, List.foldl_cons, apply_apply_self]

/-- An upper bound on users stays at the greatest integer when the lower one is replaced, and
a day that ends behind the last year takes away an earlier bound. -/
theorem ofClauses_slots_at_ends :
    let last : Instant := ⟨8210266876799, 0⟩
    let row : List Clause := [.date "last_seen" .lt ⟨0, 0⟩, .enum "level" "error",
      .number "users" .eq Int64.maxValue, .date "last_seen" .eq last, .text "crash",
      .enum "level" "fatal", .number "users" .gt 4, .enum "level" "error"]
    let refused : Clause := .number "users" .gte 9
    let other : Clause := .enum "is" "resolved"
    (¬refused.HasSlot ∧ other.field? ≠ refused.field?) ∧
      perSlot row = {
        level := some ["error", "fatal"]
        usersGt := some 4
        usersLt := some Int64.maxValue
        lastSeenAfter := some "+262142-12-31T23:59:59.000Z" } ∧
      ofClauses row = perSlot row ∧
      ofClauses (row ++ [refused, other]) = ofClauses (row ++ [other]) ∧
      ofClauses (row ++ [other, other]) = ofClauses (row ++ [other]) ∧
      ofClauses (row ++ [other, refused]) = ofClauses (row ++ [refused, other]) := by
  intro last row refused other
  have hslot : ¬refused.HasSlot := by simp [refused, Clause.HasSlot]
  have hfield : other.field? ≠ refused.field? := by decide
  obtain ⟨hslots, hnone, htwice, hswap⟩ := ofClauses_slots row
  exact ⟨⟨hslot, hfield⟩, by decide +kernel, hslots, hnone refused [other] hslot,
    htwice other [], hswap other refused [] hfield⟩

end Filters

end IssueSearch
