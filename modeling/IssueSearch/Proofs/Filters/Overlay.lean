import IssueSearch.Proofs.Filters.Slots
import IssueSearch.Proofs.Query.Sound

/-!
# One search laid over another

The slots of two searches, one after the other, as a row of clauses would fill them: a
later bound replaces an earlier one, and lists of values and texts go on.

* `mergeValues`, `joinWords`, `joinTexts`, `Filters.overlay`: the overlay, slot by slot;
* `Clause.HasWindow`: a date that an equality takes has an end of its day, which every
  clause of a field has (`hasWindow_of_clause?`);
* `apply_overlay`: the one step, and `ofClauses_append`, the law for rows of clauses.
-/

namespace IssueSearch

open Time (Instant)

/-! ## The overlay -/

/-- The values of the first list and then those of the second that are new. -/
def mergeValues : Option (List String) → Option (List String) → Option (List String)
  | none, none => none
  | earlier, later =>
      let present := earlier.getD []
      some (present ++ (later.getD []).filter fun value => !present.contains value)

/-- Two texts with a space between them, or the one that is not empty. -/
def joinWords (earlier later : String) : String :=
  if earlier.isEmpty then later
  else if later.isEmpty then earlier
  else earlier ++ " " ++ later

/-- Two texts that may be absent, with a space between them. -/
def joinTexts : Option String → Option String → Option String
  | none, later => later
  | earlier, none => earlier
  | some earlier, some later => some (earlier ++ " " ++ later)

/-- The slots of one search after those of another. -/
def Filters.overlay (earlier later : Filters) : Filters where
  status := mergeValues earlier.status later.status
  level := mergeValues earlier.level later.level
  countGt := later.countGt.or earlier.countGt
  countLt := later.countLt.or earlier.countLt
  countGte := later.countGte.or earlier.countGte
  countLte := later.countLte.or earlier.countLte
  usersGt := later.usersGt.or earlier.usersGt
  usersLt := later.usersLt.or earlier.usersLt
  firstSeenAfter := later.firstSeenAfter.or earlier.firstSeenAfter
  firstSeenBefore := later.firstSeenBefore.or earlier.firstSeenBefore
  lastSeenAfter := later.lastSeenAfter.or earlier.lastSeenAfter
  lastSeenBefore := later.lastSeenBefore.or earlier.lastSeenBefore
  text := joinTexts earlier.text later.text

/-- No values add nothing. -/
theorem mergeValues_none (values : Option (List String)) : mergeValues values none = values := by
  cases values <;> simp [mergeValues]

/-- A value is added behind both lists when it is in neither. -/
theorem withValue_mergeValues (earlier later : Option (List String)) (value : String) :
    Filters.withValue (mergeValues earlier later) value =
      mergeValues earlier (Filters.withValue later value) := by
  have hlater : mergeValues earlier (Filters.withValue later value) =
      some (earlier.getD [] ++ ((Filters.withValue later value).getD []).filter fun value =>
        !(earlier.getD []).contains value) := by
    cases earlier <;> rfl
  have hearlier : (mergeValues earlier later).getD [] =
      earlier.getD [] ++ (later.getD []).filter fun value =>
        !(earlier.getD []).contains value := by
    cases earlier <;> cases later <;> simp [mergeValues]
  rw [hlater]
  unfold Filters.withValue
  dsimp only
  rw [hearlier]
  by_cases hpresent : value ∈ earlier.getD []
  · by_cases hmem : value ∈ later.getD [] <;> simp [hpresent, hmem]
  · by_cases hmem : value ∈ later.getD [] <;> simp [hpresent, hmem]

/-- A search that restricts nothing adds nothing. -/
theorem overlay_empty (filters : Filters) : filters.overlay Filters.empty = filters := by
  obtain ⟨status, level, _, _, _, _, _, _, _, _, _, _, text⟩ := filters
  have htext : joinTexts text none = text := by
    cases text <;> rfl
  simp [Filters.overlay, Filters.empty, mergeValues_none, htext]

/-! ## Clauses -/

/-- The day that an equality on a date covers has an end. -/
def Clause.HasWindow : Clause → Prop
  | .date _ operator moment => operator = .eq → moment.nextDay?.isSome = true
  | _ => True

/-- Every clause that a field makes has its window. -/
theorem hasWindow_of_clause? {field : Field} {token : Token} {now : Instant} {clause : Clause}
    (h : field.clause? token now = .ok (some clause)) : clause.HasWindow := by
  obtain ⟨_, henum | ⟨n, operator, _, rfl⟩ | ⟨moment, operator, hmoment, rfl⟩ | rfl⟩ :=
    clause?_cases h
  · unfold Field.enumClause at henum
    dsimp only at henum
    split at henum
    · cases henum
      trivial
    · cases henum
  · trivial
  · intro hoperator
    obtain ⟨_, hwindow⟩ := isSound_of_moment? hmoment field.name
    obtain ⟨next, hnext, _⟩ := hwindow hoperator
    rw [hnext]
    rfl
  · trivial

/-- Every clause that a token contributes has its window. -/
theorem hasWindow_of_effect {token : Token} {schema : Schema} {now : Instant} {clause : Clause}
    (h : token.effect schema now = .clause clause) : clause.HasWindow := by
  obtain ⟨field, hclause⟩ := exists_clause?_of_effect h
  exact hasWindow_of_clause? hclause

/-- An upper bound that is read of a clause with its window is present, so that nothing is left
of an earlier one. -/
theorem elim_windowEnd? {clause : Clause} (h : clause.HasWindow) (name : String)
    (operators : List Operator) (earlier later : Option String) :
    (clause.moment? name operators).elim (later.or earlier) windowEnd? =
      ((clause.moment? name operators).elim later windowEnd?).or earlier := by
  cases hread : clause.moment? name operators with
  | none => rfl
  | some found =>
    obtain ⟨operator, moment⟩ := found
    obtain ⟨rfl, -⟩ := Clause.moment?_eq_some_iff.mp hread
    have hpresent : (windowEnd? (operator, moment)).isSome = true := by
      cases operator with
      | eq =>
        rw [windowEnd?_eq, Option.isSome_map]
        exact h rfl
      | _ => rfl
    obtain ⟨bound, hbound⟩ := Option.isSome_iff_exists.mp hpresent
    simp [hbound]

/-- A clause changes the later of two searches only. -/
theorem apply_overlay (earlier later : Filters) {clause : Clause} (h : clause.HasWindow) :
    (earlier.overlay later).apply clause = earlier.overlay (later.apply clause) := by
  have hvalues : ∀ (found : Option String) (earlier later : Option (List String)),
      found.elim (mergeValues earlier later) (Filters.withValue (mergeValues earlier later)) =
        mergeValues earlier (found.elim later (Filters.withValue later)) := by
    intro found earlier later
    cases found with
    | none => rfl
    | some value => exact withValue_mergeValues earlier later value
  simp only [Filters.apply_eq, Filters.overlay, hvalues, elim_windowEnd? h, Option.or_assoc]

/-- A row of clauses changes the later of two searches only. -/
theorem foldl_apply_overlay (earlier : Filters) {clauses : List Clause}
    (h : ∀ clause ∈ clauses, clause.HasWindow) (later : Filters) :
    clauses.foldl Filters.apply (earlier.overlay later) =
      earlier.overlay (clauses.foldl Filters.apply later) := by
  induction clauses generalizing later with
  | nil => rfl
  | cons clause clauses ih =>
    rw [List.foldl_cons, List.foldl_cons, apply_overlay earlier later (h clause (by simp))]
    exact ih (fun other hother => h other (List.mem_cons_of_mem _ hother)) _

/-- Two rows of clauses lay the second search over the first. -/
theorem ofClauses_append (first : List Clause) {second : List Clause}
    (h : ∀ clause ∈ second, clause.HasWindow) :
    Filters.ofClauses (first ++ second) =
      (Filters.ofClauses first).overlay (Filters.ofClauses second) := by
  have hfold := foldl_apply_overlay (Filters.ofClauses first) h Filters.empty
  rw [overlay_empty] at hfold
  rw [Filters.ofClauses, List.foldl_append]
  exact hfold

end IssueSearch
