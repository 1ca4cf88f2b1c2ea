import IssueSearch.Decimal
import IssueSearch.Text.Lowercase

/-!
# How well a name matches what was typed

The score of a match, as an exact fraction.  Letter case does not count.  From
best to worst: the whole name, its start, a part of it, and its characters in
order with others between them.

* `share`: which part of the name was typed;
* `countInOrder?`: the search for characters in order, which counts what it finds;
* `matchScore`: the score;
* `Score.shown`: the score as it is shown;
* `countInOrder?_eq_some_iff`: taking first occurrences finds whatever stands in order.
-/

namespace IssueSearch

/-- A score, higher for a better match. -/
abbrev Score :=
  Rat

/-- Whether a text occurs in another without a gap. -/
def occursIn (part : List Char) : List Char → Bool
  | [] => part.isEmpty
  | c :: rest => part.isPrefixOf (c :: rest) || occursIn part rest

/-- The length of what was typed over the length of the name. -/
def share (typed target : List Char) : Score :=
  mkRat typed.length target.length

/-- What follows the first occurrence of a character. -/
def behindFirst? (wanted : Char) : List Char → Option (List Char)
  | [] => none
  | c :: rest => if c = wanted then some rest else behindFirst? wanted rest

/-- The number of characters found, each behind the first occurrence of the one before it; none
if there is one that is missing. -/
def countInOrder? (text : List Char) : List Char → Option Nat
  | [] => some 0
  | wanted :: typed =>
      match behindFirst? wanted text with
      | some rest => (countInOrder? rest typed).map (· + 1)
      | none => none

/-- The score of a name for what was typed, both in lower case. -/
def matchScoreLower (target typed : List Char) : Score :=
  if target = typed then 100
  else if typed.isPrefixOf target then 90 + share typed target
  else if occursIn typed target then 70 + share typed target
  else match countInOrder? target typed with
    | some count => 10 * count
    | none => 0

/-- The score of a name for what was typed. -/
def matchScore (target typed : List Char) : Score :=
  matchScoreLower (Text.lowercase target) (Text.lowercase typed)

/-- The binary number that shows a score: the part behind the point is rounded
before it is added to the whole. -/
def Score.shown (score : Score) : Rat :=
  let whole : Rat := score.floor
  Decimal.nearestBinary (whole + Decimal.nearestBinary (score - whole))

/-! ## Laws -/

/-- Characters stand in a text in order if the first one occurs and the others stand in order
behind its first occurrence. -/
theorem cons_sublist_iff {wanted : Char} {typed text : List Char} :
    (wanted :: typed).Sublist text ↔
      ∃ rest, behindFirst? wanted text = some rest ∧ typed.Sublist rest := by
  induction text with
  | nil => simp [behindFirst?]
  | cons c text ih =>
    rw [behindFirst?]
    by_cases hfirst : c = wanted
    · -- whatever place was taken for the first character, the others stand behind this one
      subst hfirst
      simp [List.cons_sublist_cons]
    · rw [if_neg hfirst, ← ih, List.sublist_cons_iff]
      constructor
      · rintro (hsub | ⟨tail, heq, -⟩)
        · exact hsub
        · cases heq
          exact absurd rfl hfirst
      · exact Or.inl

/-- The search finds all characters if they stand in the text in order, and counts them. -/
theorem countInOrder?_eq_some_iff {text typed : List Char} {count : Nat} :
    countInOrder? text typed = some count ↔ typed.Sublist text ∧ count = typed.length := by
  induction typed generalizing text count with
  | nil => simp [countInOrder?, eq_comm]
  | cons wanted typed ih =>
    rw [countInOrder?, cons_sublist_iff]
    cases hfirst : behindFirst? wanted text with
    | none => simp
    | some rest =>
      simp only [Option.map_eq_some_iff, ih, Option.some.injEq, exists_eq_left',
        List.length_cons]
      constructor
      · rintro ⟨found, ⟨hsub, rfl⟩, rfl⟩
        exact ⟨hsub, rfl⟩
      · rintro ⟨hsub, rfl⟩
        exact ⟨typed.length, ⟨hsub, rfl⟩, rfl⟩

end IssueSearch
