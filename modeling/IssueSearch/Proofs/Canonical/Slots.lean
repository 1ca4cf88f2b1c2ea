import IssueSearch.Proofs.Canonical.Filter

/-!
# The slots of a search read back

The parts of the canonical form before the free text set the slots from which they
were written, and nothing else.  The one exception is the lower bound -1 on users:
with the upper bound 1 it is the equality with 0, but alone it has no written form.

* `readsAll_clauses`, `readsAll_slot`: a row of filters folds its clauses, and a
  filter for one slot sets it;
* `readsAll_values`, `readsAll_boundPart`, `readsAll_datePart`: any slot of values, of
  a number, of a date;
* `readsAll_countEnds`, `readsAll_countParts`, `readsAll_userParts`: the slots of a field of
  numbers;
* `Filters.hasUnwritableUsers`, `Filters.readable`: the exception, and what is left;
* `readsAll_structuredParts`: all slots and the order.
-/

namespace IssueSearch

open Time (Instant)

/-! ## Rows of filters -/

section

variable (now : Instant)

/-- A row of filters folds its clauses. -/
theorem readsAll_clauses {α : Type} {items : List α} {part : α → String} {clause : α → Clause}
    (h : ∀ item ∈ items, ∀ before : Outcome, ReadsTo Schema.standard now (part item).toList before
      { before with filters := before.filters.apply (clause item) })
    (before : Outcome) :
    ReadsAll Schema.standard now ((items.map part).map String.toList) before
      { before with filters := (items.map clause).foldl Filters.apply before.filters } := by
  induction items generalizing before with
  | nil => exact .nil before
  | cons item items ih =>
    exact .cons (h item List.mem_cons_self before)
      (ih (fun other hother => h other (List.mem_cons_of_mem _ hother)) _)

/-- A filter for a slot that may be absent sets the slot. -/
theorem readsAll_slot {α β : Type} {part : α → String} {clause : α → Clause} {value : α → β}
    (put : Filters → Option β → Filters)
    (hput : ∀ filters found item, (put filters found).apply (clause item) =
      put filters (some (value item)))
    {item : Option α}
    (hread : ∀ found ∈ item, ∀ between : Outcome, ReadsTo Schema.standard now
      (part found).toList between { between with filters := between.filters.apply (clause found) })
    {before : Outcome} (hbefore : before.filters = put before.filters none) :
    ReadsAll Schema.standard now ((item.toList.map part).map String.toList) before
      { before with filters := put before.filters (item.map value) } := by
  have hslot : (item.toList.map clause).foldl Filters.apply before.filters =
      put before.filters (item.map value) := by
    cases item with
    | none => exact hbefore
    | some found =>
      show before.filters.apply (clause found) = put before.filters (some (value found))
      rw [hbefore, hput, ← hbefore]
  have hall : ReadsAll Schema.standard now ((item.toList.map part).map String.toList) before
      { before with filters := (item.toList.map clause).foldl Filters.apply before.filters } :=
    readsAll_clauses now (fun found hfound => hread found (Option.mem_toList.mp hfound)) before
  rwa [hslot] at hall

/-! ## Values -/

/-- New values are added at the end, in order. -/
theorem foldl_withValue (present : List String) {values : List String}
    (h : (present ++ values).Nodup) :
    values.foldl Filters.withValue (some present) = some (present ++ values) := by
  induction values generalizing present with
  | nil => simp
  | cons value values ih =>
    have hnew : value ∉ present := by
      intro hmem
      exact (List.nodup_append.mp h).2.2 value hmem value List.mem_cons_self rfl
    have hstep : Filters.withValue (some present) value = some (present ++ [value]) := by
      simp [Filters.withValue, hnew]
    have hrest : (present ++ [value] ++ values).Nodup := by simpa using h
    rw [List.foldl_cons, hstep, ih _ hrest]
    simp

/-- A list of values is built up from its values. -/
theorem foldl_withValue_none {allowed : List String} {values : Option (List String)}
    (h : IsValueList allowed values) :
    (values.getD []).foldl Filters.withValue none = values := by
  cases values with
  | none => rfl
  | some list =>
    obtain ⟨hne, hnodup, _⟩ := h list rfl
    cases list with
    | nil => exact absurd rfl hne
    | cons value rest => exact foldl_withValue [value] hnodup

section

variable (name : String) (put : Filters → Option (List String) → Filters)
  (hput : ∀ filters values value, (put filters values).apply (.enum name value) =
    put filters (Filters.withValue values value))
include hput

/-- Clauses on a field of values grow its slot. -/
theorem foldl_apply_enum (filters : Filters) (values : List String)
    (present : Option (List String)) :
    (values.map (Clause.enum name)).foldl Filters.apply (put filters present) =
      put filters (values.foldl Filters.withValue present) := by
  induction values generalizing present with
  | nil => rfl
  | cons value values ih => rw [List.map_cons, List.foldl_cons, hput, ih, List.foldl_cons]

/-- Written values of a standard field set its slot. -/
theorem readsAll_values {allowed : List String}
    (hfield : ∃ field ∈ Schema.standard.fields, field.name = name ∧ field.type = .enum ∧
      field.allows .eq = true ∧ field.values = allowed)
    {values : Option (List String)} (h : IsValueList allowed values) {before : Outcome}
    (hbefore : before.filters = put before.filters none) :
    ReadsAll Schema.standard now (((values.getD []).map (writeFilter name "")).map String.toList)
      before { before with filters := put before.filters values } := by
  obtain ⟨field, hmem, rfl, htype, hallows, rfl⟩ := hfield
  have hread : ReadsAll Schema.standard now
      (((values.getD []).map (writeFilter field.name "")).map String.toList) before
      { before with
        filters := ((values.getD []).map (Clause.enum field.name)).foldl Filters.apply
          before.filters } := by
    refine readsAll_clauses now (fun value hvalue between => ?_) before
    cases values with
    | none => cases hvalue
    | some list => exact readsTo_enum now hmem htype hallows ((h list rfl).2.2 value hvalue) between
  have hslot : ((values.getD []).map (Clause.enum field.name)).foldl Filters.apply before.filters =
      put before.filters values := by
    rw [hbefore, foldl_apply_enum field.name put hput, ← hbefore, foldl_withValue_none h]
  rwa [hslot] at hread

end

/-! ## Numbers -/

/-- A written bound sets its slot. -/
theorem readsAll_boundPart {name : String} {op : Operator}
    (put : Filters → Option Int64 → Filters)
    (hput : ∀ filters bound n, (put filters bound).apply (.number name op n) =
      put filters (some n))
    (hoffers : Schema.standard.Offers name .number op) (hop : op ≠ .ne) {bound : Option Int64}
    (h : IsAtLeast 0 bound) {before : Outcome}
    (hbefore : before.filters = put before.filters none) :
    ReadsAll Schema.standard now ((boundPart name op.symbol bound).map String.toList) before
      { before with filters := put before.filters bound } := by
  have hread := readsAll_slot now put hput
    (fun n hn between => readsTo_number now hoffers hop (h n hn) between) hbefore
  rwa [Option.map_id'] at hread

/-- Filters on the two number fields may use these operators. -/
theorem offers_numbers :
    (∀ op ∈ [Operator.eq, .gt, .lt, .gte, .lte], Schema.standard.Offers "count" .number op) ∧
      ∀ op ∈ [Operator.eq, .gt, .lt], Schema.standard.Offers "users" .number op := by
  unfold Schema.Offers
  decide

/-- The bounds on the number of events that belong to their range set their slots: two equal
ones as an equality, others one by one. -/
theorem readsAll_countEnds {least greatest : Option Int64} (hleast : IsAtLeast 0 least)
    (hgreatest : IsAtLeast 0 greatest) {before : Outcome}
    (hbefore : before.filters.countGte = none ∧ before.filters.countLte = none) :
    ReadsAll Schema.standard now
      ((if least.isSome && least == greatest then boundPart "count" "" least
        else boundPart "count" ">=" least ++ boundPart "count" "<=" greatest).map String.toList)
      before { before with
        filters := { before.filters with countGte := least, countLte := greatest } } := by
  obtain ⟨hnoLeast, hnoGreatest⟩ := hbefore
  have hcount := offers_numbers.1
  split
  · next hequal =>
    rw [Bool.and_eq_true, beq_iff_eq] at hequal
    have hnone : before.filters = { before.filters with countGte := none, countLte := none } := by
      obtain ⟨⟨_, _, _, _, _, _, _, _, _, _, _, _, _⟩, _, _, _⟩ := before
      obtain rfl := hnoLeast
      obtain rfl := hnoGreatest
      rfl
    have hboth := readsAll_boundPart now
      (fun slots bound => { slots with countGte := bound, countLte := bound }) (fun _ _ _ => rfl)
      (hcount .eq (by simp)) (by decide) hleast hnone
    refine hboth.of_eq ?_
    rw [hequal.2]
  · rw [List.map_append]
    have hlow := readsAll_boundPart now (fun slots bound => { slots with countGte := bound })
      (fun _ _ _ => rfl) (hcount .gte (by simp)) (by decide) hleast (by rw [← hnoLeast])
    exact hlow.append (readsAll_boundPart now
      (fun slots bound => { slots with countLte := bound }) (fun _ _ _ => rfl)
      (hcount .lte (by simp)) (by decide) hgreatest (by rw [← hnoGreatest]))

/-- The bounds on the number of events set their slots. -/
theorem readsAll_countParts {filters : Filters} (h : filters.IsSound) {before : Outcome}
    (hbefore : before.filters.countGt = none ∧ before.filters.countLt = none ∧
      before.filters.countGte = none ∧ before.filters.countLte = none) :
    ReadsAll Schema.standard now ((countParts filters).map String.toList) before
      { before with filters := { before.filters with
          countGt := filters.countGt, countLt := filters.countLt,
          countGte := filters.countGte, countLte := filters.countLte } } := by
  obtain ⟨hnoGt, hnoLt, hnoEnds⟩ := hbefore
  have hcount := offers_numbers.1
  unfold countParts
  dsimp only
  rw [List.map_append, List.map_append]
  have hends := readsAll_countEnds now h.countGte h.countLte hnoEnds
  have hgt := hends.append (readsAll_boundPart now
    (fun slots bound => { slots with countGt := bound }) (fun _ _ _ => rfl)
    (hcount .gt (by simp)) (by decide) h.countGt (by rw [← hnoGt]))
  exact hgt.append (readsAll_boundPart now
    (fun slots bound => { slots with countLt := bound }) (fun _ _ _ => rfl)
    (hcount .lt (by simp)) (by decide) h.countLt (by rw [← hnoLt]))

/-! ## Users -/

/-- The lower bound -1 on users stands beside another upper bound than 1, so that
it is no part of an equality. -/
def Filters.hasUnwritableUsers (filters : Filters) : Bool :=
  filters.usersGt == some (-1) && filters.usersLt != some 1

/-- The filters without a bound that has no written form. -/
def Filters.readable (filters : Filters) : Filters :=
  if filters.hasUnwritableUsers then { filters with usersGt := none } else filters

/-- What is wrong with the written form of the filters. -/
def Filters.writtenCauses (filters : Filters) : List Cause :=
  if filters.hasUnwritableUsers then [.negativeNumberRejected "users" "-1"] else []

theorem hasUnwritableUsers_iff (filters : Filters) :
    filters.hasUnwritableUsers = true ↔
      filters.usersGt = some (-1) ∧ filters.usersLt ≠ some 1 := by
  simp [Filters.hasUnwritableUsers]

/-- The bound without a written form is rejected and lost. -/
theorem readable_of_unwritable {filters : Filters} (h : filters.hasUnwritableUsers = true) :
    filters.readable = { filters with usersGt := none } ∧
      filters.writtenCauses = [.negativeNumberRejected "users" "-1"] := by
  rw [Filters.readable, Filters.writtenCauses, if_pos h, if_pos h]
  exact ⟨rfl, rfl⟩

/-- All other bounds are kept. -/
theorem readable_of_writable {filters : Filters} (h : filters.hasUnwritableUsers = false) :
    filters.readable = filters ∧ filters.writtenCauses = [] := by
  rw [Filters.readable, Filters.writtenCauses, h]
  exact ⟨rfl, rfl⟩

/-- What is left has a written form. -/
theorem hasUnwritableUsers_readable (filters : Filters) :
    filters.readable.hasUnwritableUsers = false := by
  cases hunwritable : filters.hasUnwritableUsers with
  | false => rw [(readable_of_writable hunwritable).1, hunwritable]
  | true =>
    rw [(readable_of_unwritable hunwritable).1]
    rfl

/-- A lower bound on users is read back, unless it is -1. -/
theorem readsAll_usersGt {low : Option Int64} (h : IsAtLeast (-1) low) {before : Outcome}
    (hbefore : before.filters.usersGt = none) :
    ReadsAll Schema.standard now ((boundPart "users" ">" low).map String.toList) before
      (if low = some (-1) then
        { before with causes := before.causes ++ [.negativeNumberRejected "users" "-1"] }
      else { before with filters := { before.filters with usersGt := low } }) := by
  have husers := offers_numbers.2 .gt (by simp)
  split
  · next hlow =>
    subst hlow
    exact .single (readsTo_negative now husers (by decide) (by decide) before)
  · next hlow =>
    have hbound : IsAtLeast 0 low := by
      intro n hn
      have hleast := h n hn
      have hne : n.toInt ≠ -1 := by
        intro heq
        have hn' : n = -1 := Int64.toInt_inj.mp heq
        exact hlow (hn' ▸ hn)
      omega
    refine readsAll_boundPart now (fun slots bound => { slots with usersGt := bound })
      (fun _ _ _ => rfl) husers (by decide) hbound ?_
    rw [← hbefore]

/-- An upper bound on users is read back. -/
theorem readsAll_usersLt {high : Option Int64} (h : IsAtLeast 0 high) {before : Outcome}
    (hbefore : before.filters.usersLt = none) :
    ReadsAll Schema.standard now ((boundPart "users" "<" high).map String.toList) before
      { before with filters := { before.filters with usersLt := high } } := by
  have husers := offers_numbers.2 .lt (by simp)
  refine readsAll_boundPart now (fun slots bound => { slots with usersLt := bound })
    (fun _ _ _ => rfl) husers (by decide) h ?_
  rw [← hbefore]

/-- An interval around one number is the equality with it. -/
theorem apply_users_eq {low high : Int64} (hlow : -1 ≤ low.toInt)
    (hwidth : high.toInt - low.toInt = 2) (filters : Filters) :
    0 ≤ (low + 1).toInt ∧ filters.apply (.number "users" .eq (low + 1)) =
      { filters with usersGt := some low, usersLt := some high } := by
  have hupper : high.toInt ≤ 9223372036854775807 := Int64.toInt_le high
  have hmiddle : (low + 1).toInt = low.toInt + 1 := Filters.toInt_add_one (by omega)
  have hbefore : Filters.before (low + 1) = low := by
    rw [← Int64.toInt_inj, Filters.toInt_before (by omega)]
    omega
  have hbehind : Filters.behind (low + 1) = high := by
    rw [← Int64.toInt_inj]
    rcases Filters.behind_cases (low + 1) with ⟨hmax, _⟩ | ⟨_, hnext⟩ <;> omega
  refine ⟨by omega, ?_⟩
  show { filters with
    usersGt := some (Filters.before (low + 1)), usersLt := some (Filters.behind (low + 1)) } = _
  rw [hbefore, hbehind]

/-- The outcome after the bounds on users. -/
def Outcome.withUsers (outcome : Outcome) (filters : Filters) : Outcome :=
  { outcome with
    filters := { outcome.filters with
      usersGt := filters.readable.usersGt, usersLt := filters.usersLt }
    causes := outcome.causes ++ filters.writtenCauses }

/-- Two bounds that are no equality are read one after the other. -/
theorem readsAll_userRange {filters : Filters} (hgt : IsAtLeast (-1) filters.usersGt)
    (hlt : IsAtLeast 0 filters.usersLt)
    (halone : filters.usersGt = some (-1) → filters.usersLt ≠ some 1) {before : Outcome}
    (hbefore : before.filters.usersGt = none ∧ before.filters.usersLt = none) :
    ReadsAll Schema.standard now
      ((boundPart "users" ">" filters.usersGt ++ boundPart "users" "<" filters.usersLt).map
        String.toList)
      before (before.withUsers filters) := by
  rw [List.map_append]
  have hlow := readsAll_usersGt now hgt hbefore.1
  by_cases hleast : filters.usersGt = some (-1)
  · obtain ⟨hreadable, hcauses⟩ :=
      readable_of_unwritable ((hasUnwritableUsers_iff filters).mpr ⟨hleast, halone hleast⟩)
    rw [if_pos hleast] at hlow
    have hboth := hlow.append (readsAll_usersLt now hlt hbefore.2)
    rw [Outcome.withUsers, hreadable, hcauses]
    dsimp only at hboth ⊢
    rwa [hbefore.1] at hboth
  · have hwritable : filters.hasUnwritableUsers = false := by
      rw [Bool.eq_false_iff, ne_eq, hasUnwritableUsers_iff]
      exact fun h => hleast h.1
    obtain ⟨hreadable, hcauses⟩ := readable_of_writable hwritable
    rw [if_neg hleast] at hlow
    have hboth := hlow.append (readsAll_usersLt now hlt hbefore.2)
    rw [Outcome.withUsers, hreadable, hcauses, List.append_nil]
    exact hboth

/-- The bounds on the number of users set their slots, except for one that has no
written form. -/
theorem readsAll_userParts {filters : Filters} (hgt : IsAtLeast (-1) filters.usersGt)
    (hlt : IsAtLeast 0 filters.usersLt) {before : Outcome}
    (hbefore : before.filters.usersGt = none ∧ before.filters.usersLt = none) :
    ReadsAll Schema.standard now ((userParts filters).map String.toList) before
      (before.withUsers filters) := by
  have hone : (1 : Int64).toInt = 1 := by decide
  have hminus : (-1 : Int64).toInt = -1 := by decide
  unfold userParts
  split
  · next low high hlow hhigh =>
    split
    · next hwidth =>
      have hwritable : filters.hasUnwritableUsers = false := by
        rw [Bool.eq_false_iff, ne_eq, hasUnwritableUsers_iff, hlow, hhigh]
        rintro ⟨hleast, hother⟩
        refine hother (congrArg some (Int64.toInt_inj.mp ?_))
        rw [Option.some.inj hleast] at hwidth
        omega
      obtain ⟨hreadable, hcauses⟩ := readable_of_writable hwritable
      obtain ⟨hpos, happly⟩ := apply_users_eq (hgt low hlow) hwidth before.filters
      have hread := readsTo_number now (offers_numbers.2 .eq (by simp)) (by decide) hpos
        before
      rw [happly] at hread
      rw [Outcome.withUsers, hreadable, hcauses, hlow, hhigh, List.append_nil]
      exact .single hread
    · next hwidth =>
      rw [← hlow, ← hhigh]
      refine readsAll_userRange now hgt hlt (fun hleast hother => hwidth ?_) hbefore
      rw [hlow] at hleast
      rw [hhigh] at hother
      rw [Option.some.inj hleast, Option.some.inj hother]
      omega
  · next hnone =>
    exact readsAll_userRange now hgt hlt (fun hleast hother => hnone _ _ hleast hother) hbefore

/-! ## Dates -/

/-- A date in its wire form is that of an instant. -/
theorem IsWireDate.exists_moment {date : Option String} (h : IsWireDate date) :
    ∃ moment : Option Instant, date = moment.map Instant.format ∧
      ∀ found ∈ moment, found.isRepresentable = true := by
  cases date with
  | none => exact ⟨none, rfl, fun _ hfound => by cases hfound⟩
  | some text =>
    obtain ⟨moment, hmoment, rfl⟩ := h text rfl
    refine ⟨some moment, rfl, fun found hfound => ?_⟩
    rw [← Option.some.inj hfound]
    exact hmoment

/-- A written bound of a date sets its slot. -/
theorem readsAll_datePart {name : String} {op : Operator} (put : Filters → Option String → Filters)
    (hput : ∀ filters date moment, (put filters date).apply (.date name op moment) =
      put filters (some moment.format))
    (hoffers : Schema.standard.Offers name .date op) (hop : op = .gt ∨ op = .lt)
    {date : Option String} (h : IsWireDate date) {before : Outcome}
    (hbefore : before.filters = put before.filters none) :
    ReadsAll Schema.standard now ((date.toList.map (writeFilter name op.symbol)).map String.toList)
      before { before with filters := put before.filters date } := by
  obtain ⟨moment, rfl, hmoment⟩ := h.exists_moment
  have hparts : (moment.map Instant.format).toList.map (writeFilter name op.symbol) =
      moment.toList.map fun found => writeFilter name op.symbol found.format := by
    cases moment <;> rfl
  have hsame : (fun found : Instant => found.cut.format) = Instant.format :=
    funext Time.format_cut
  have hread := readsAll_slot now put (fun filters date found => hput filters date found.cut)
    (fun found hfound between => readsTo_date now hoffers hop (hmoment found hfound) between)
    hbefore
  rwa [hsame, ← hparts] at hread

/-- Filters on the two date fields may use both bounds. -/
theorem offers_dates :
    (∀ op ∈ [Operator.gt, .lt], Schema.standard.Offers "first_seen" .date op) ∧
      ∀ op ∈ [Operator.gt, .lt], Schema.standard.Offers "last_seen" .date op := by
  unfold Schema.Offers
  decide

/-! ## Orders -/

/-- The order of the results is read back. -/
theorem readsAll_sortParts {order : Option SortOrder}
    (h : ∀ found ∈ order, isSortable found.field = true) {before : Outcome}
    (hbefore : before.sort = none) :
    ReadsAll Schema.standard now ((sortParts order).map String.toList) before
      { before with sort := order } := by
  cases order with
  | none =>
    obtain ⟨_, _, _, _⟩ := before
    obtain rfl := hbefore
    exact .nil _
  | some found =>
    have hpart : sortParts (some found) = [writeFilter sortKeyword "" (sortValue found)] := by
      obtain ⟨field, direction⟩ := found
      cases direction <;> rfl
    rw [hpart]
    exact .single (readsTo_sort now (h found rfl) before)

/-! ## All parts -/

/-- The parts of the canonical form before the free text. -/
def structuredParts (filters : Filters) (order : Option SortOrder) : List String :=
  (filters.status.getD []).map (writeFilter "is" "") ++
    (filters.level.getD []).map (writeFilter "level" "") ++
    countParts filters ++ userParts filters ++
    dateParts "first_seen" filters.firstSeenAfter filters.firstSeenBefore ++
    dateParts "last_seen" filters.lastSeenAfter filters.lastSeenBefore ++ sortParts order

/-- The parts before the free text give back the slots and the order. -/
theorem readsAll_structuredParts {filters : Filters} (h : filters.IsParsed)
    {order : Option SortOrder} (horder : ∀ found ∈ order, isSortable found.field = true) :
    ReadsAll Schema.standard now ((structuredParts filters order).map String.toList)
      Outcome.empty
      ⟨{ filters.readable with text := none }, order, [], filters.writtenCauses⟩ := by
  obtain ⟨hfirstSeen, hlastSeen⟩ := offers_dates
  have hstatus := readsAll_values now "is" (fun slots values => { slots with status := values })
    (fun _ _ _ => rfl) (by decide) h.status (rfl : Outcome.empty.filters = _)
  have hlevel := hstatus.append (readsAll_values now "level"
    (fun slots values => { slots with level := values }) (fun _ _ _ => rfl) (by decide) h.level rfl)
  have hnumbers := (hlevel.append
    (readsAll_countParts now h.toIsSound ⟨rfl, rfl, rfl, rfl⟩)).append
    (readsAll_userParts now h.usersGt h.usersLt ⟨rfl, rfl⟩)
  have hfirst := (hnumbers.append (readsAll_datePart now
    (fun slots date => { slots with firstSeenAfter := date }) (fun _ _ _ => rfl)
    (hfirstSeen .gt (by simp)) (Or.inl rfl) h.firstSeenAfter rfl)).append (readsAll_datePart now
    (fun slots date => { slots with firstSeenBefore := date }) (fun _ _ _ => rfl)
    (hfirstSeen .lt (by simp)) (Or.inr rfl) h.firstSeenBefore rfl)
  have hlast := (hfirst.append (readsAll_datePart now
    (fun slots date => { slots with lastSeenAfter := date }) (fun _ _ _ => rfl)
    (hlastSeen .gt (by simp)) (Or.inl rfl) h.lastSeenAfter rfl)).append (readsAll_datePart now
    (fun slots date => { slots with lastSeenBefore := date }) (fun _ _ _ => rfl)
    (hlastSeen .lt (by simp)) (Or.inr rfl) h.lastSeenBefore rfl)
  have hread := hlast.append (readsAll_sortParts now horder rfl)
  simp only [structuredParts, dateParts, List.map_append, ← List.append_assoc] at hread ⊢
  refine hread.of_eq ?_
  cases hunwritable : filters.hasUnwritableUsers with
  | true =>
    obtain ⟨hreadable, hcauses⟩ := readable_of_unwritable hunwritable
    rw [Outcome.withUsers, hreadable, hcauses]
    rfl
  | false =>
    obtain ⟨hreadable, hcauses⟩ := readable_of_writable hunwritable
    rw [Outcome.withUsers, hreadable, hcauses]
    rfl

end

end IssueSearch
