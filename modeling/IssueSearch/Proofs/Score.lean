import IssueSearch.Score
import Mathlib.Algebra.Order.Ring.Rat
import Mathlib.Data.List.Infix
import Mathlib.Tactic.Linarith

/-!
# Scores of matches

What a score says about the name and what was typed, and that no match scores little: the
characters of a name in order with others between them are at least two.

* `occursIn_iff`: occurring in a text is being a part of it;
* `matchScoreLower_cases`: the score of each kind of match;
* `matchScore_eq_zero_or_le`: a name scores nothing or at least 20;
* `matchScore_pos_iff`: a name scores if it has the typed characters in order;
* `matchScore_finds_in_order`: which names score, and how much with gaps;
* `filter_mergeSort`: sorting keeps the order of what it does not tell apart;
* `byScore`: sorting by falling score, which keeps the order of equals.
-/

namespace IssueSearch

/-- A text occurs in another if it is a part of it without a gap. -/
theorem occursIn_iff {part text : List Char} : occursIn part text = true ↔ part <:+: text := by
  induction text with
  | nil => simp [occursIn]
  | cons c rest ih =>
    rw [occursIn, Bool.or_eq_true, List.isPrefixOf_iff_prefix, ih, List.infix_cons_iff]

section

variable (target typed : List Char)

/-- A share is not negative. -/
theorem share_nonneg : 0 ≤ share typed target :=
  Rat.mkRat_nonneg (Int.natCast_nonneg _) _

/-- The whole name, its start, a part of it, its characters in order, or none of these. -/
theorem matchScoreLower_cases :
    (target = typed ∧ matchScoreLower target typed = 100) ∨
    (target ≠ typed ∧ typed <+: target ∧
      matchScoreLower target typed = 90 + share typed target) ∨
    (¬typed <+: target ∧ typed <:+: target ∧
      matchScoreLower target typed = 70 + share typed target) ∨
    (¬typed <:+: target ∧ typed.Sublist target ∧
      matchScoreLower target typed = 10 * typed.length) ∨
    (¬typed.Sublist target ∧ matchScoreLower target typed = 0) := by
  simp only [matchScoreLower, List.isPrefixOf_iff_prefix, occursIn_iff]
  split_ifs with hsame hstart hpart
  · exact Or.inl ⟨hsame, rfl⟩
  · exact Or.inr (Or.inl ⟨hsame, hstart, rfl⟩)
  · exact Or.inr (Or.inr (Or.inl ⟨hstart, hpart, rfl⟩))
  · cases hcount : countInOrder? target typed with
    | some count =>
      obtain ⟨hsub, rfl⟩ := countInOrder?_eq_some_iff.mp hcount
      exact Or.inr (Or.inr (Or.inr (Or.inl ⟨hpart, hsub, rfl⟩)))
    | none =>
      refine Or.inr (Or.inr (Or.inr (Or.inr ⟨fun hsub => ?_, rfl⟩)))
      rw [countInOrder?_eq_some_iff.mpr ⟨hsub, rfl⟩] at hcount
      cases hcount

end

/-- One character of a name is a part of it: with gaps there are at least two. -/
theorem two_le_length_of_sublist {target typed : List Char} (hsub : typed.Sublist target)
    (hpart : ¬typed <:+: target) : 2 ≤ typed.length := by
  cases typed with
  | nil => exact absurd List.nil_infix hpart
  | cons c rest =>
    cases rest with
    | nil =>
      have hmem : c ∈ target := List.singleton_sublist.mp hsub
      obtain ⟨before, after, rfl⟩ := List.append_of_mem hmem
      exact absurd ⟨before, after, by simp⟩ hpart
    | cons d rest =>
      simp only [List.length_cons]
      omega

/-- A name scores nothing or at least 20. -/
theorem matchScore_eq_zero_or_le (target typed : List Char) :
    matchScore target typed = 0 ∨ 20 ≤ matchScore target typed := by
  unfold matchScore
  generalize Text.lowercase target = name
  generalize Text.lowercase typed = needle
  have hshare := share_nonneg name needle
  rcases matchScoreLower_cases name needle with ⟨_, h⟩ | ⟨_, _, h⟩ | ⟨_, _, h⟩ |
    ⟨hpart, hsub, h⟩ | ⟨_, h⟩
  · right
    rw [h]
    norm_num
  · right
    rw [h]
    linarith
  · right
    rw [h]
    linarith
  · right
    rw [h]
    have hlength : (2 : Rat) ≤ (needle.length : Rat) := by
      exact_mod_cast two_le_length_of_sublist hsub hpart
    linarith
  · exact Or.inl h

/-- A name scores if, and only if, the typed characters stand in it in order, all in lower
case. -/
theorem matchScore_pos_iff {target typed : List Char} :
    0 < matchScore target typed ↔ (Text.lowercase typed).Sublist (Text.lowercase target) := by
  have hgap := matchScore_eq_zero_or_le target typed
  unfold matchScore at hgap ⊢
  generalize Text.lowercase target = name at hgap ⊢
  generalize Text.lowercase typed = needle at hgap ⊢
  have hshare := share_nonneg name needle
  rcases matchScoreLower_cases name needle with ⟨rfl, h⟩ | ⟨_, hstart, h⟩ | ⟨_, hpart, h⟩ |
    ⟨hgaps, hsub, h⟩ | ⟨hnone, h⟩
  · exact iff_of_true (by rw [h]; norm_num) (List.Sublist.refl _)
  · exact iff_of_true (by rw [h]; linarith) hstart.sublist
  · exact iff_of_true (by rw [h]; linarith) hpart.sublist
  · refine iff_of_true ?_ hsub
    rcases hgap with hzero | hle
    · have hempty : needle = [] := by
        rw [h] at hzero
        simpa using hzero
      exact absurd List.nil_infix (hempty ▸ hgaps)
    · linarith
  · exact iff_of_false (by rw [h]; exact lt_irrefl 0) hnone

/-- With gaps only, a name scores ten for each character. -/
theorem matchScoreLower_eq_of_sublist {target typed : List Char} (hsub : typed.Sublist target)
    (hgaps : ¬typed <:+: target) : matchScoreLower target typed = 10 * typed.length := by
  rcases matchScoreLower_cases target typed with ⟨rfl, -⟩ | ⟨-, hstart, -⟩ | ⟨-, hpart, -⟩ |
    ⟨-, -, hscore⟩ | ⟨hnone, -⟩
  · exact absurd (List.infix_refl _) hgaps
  · exact absurd hstart.isInfix hgaps
  · exact absurd hpart hgaps
  · exact hscore
  · exact absurd hsub hnone

/-- A name scores if, and only if, the search finds what was typed in it, all in lower case,
which is when the characters stand in it in order.  If they do with gaps only, the score is ten
for each of them, and there are at least two. -/
theorem matchScore_finds_in_order (target typed : List Char) :
    (0 < matchScore target typed ↔ (Text.lowercase typed).Sublist (Text.lowercase target)) ∧
      ((countInOrder? (Text.lowercase target) (Text.lowercase typed)).isSome = true ↔
        (Text.lowercase typed).Sublist (Text.lowercase target)) ∧
      ((Text.lowercase typed).Sublist (Text.lowercase target) →
        ¬Text.lowercase typed <:+: Text.lowercase target →
        matchScore target typed = 10 * (Text.lowercase typed).length ∧
          20 ≤ matchScore target typed) := by
  refine ⟨matchScore_pos_iff, ?_, fun hsub hgaps => ?_⟩
  · rw [Option.isSome_iff_exists]
    constructor
    · rintro ⟨count, hcount⟩
      exact (countInOrder?_eq_some_iff.mp hcount).1
    · intro hsub
      exact ⟨_, countInOrder?_eq_some_iff.mpr ⟨hsub, rfl⟩⟩
  · have hscore : matchScore target typed = 10 * (Text.lowercase typed).length :=
      matchScoreLower_eq_of_sublist hsub hgaps
    have hlength : (2 : Rat) ≤ ((Text.lowercase typed).length : Rat) := by
      exact_mod_cast two_le_length_of_sublist hsub hgaps
    refine ⟨hscore, ?_⟩
    rw [hscore]
    linarith

/-- The dot of a capital letter is a character of its own in lower case, so that what is
behind the letter follows with a gap. -/
theorem matchScore_finds_in_order_dotted_capital :
    let name := Text.lowercase "İX".toList
    let needle := Text.lowercase "IX".toList
    (needle.Sublist name ∧ ¬needle <:+: name) ∧
      0 < matchScore "İX".toList "IX".toList ∧ (countInOrder? name needle).isSome = true ∧
      matchScore "İX".toList "IX".toList = 10 * (2 : Nat) ∧
      20 ≤ matchScore "İX".toList "IX".toList := by
  intro name needle
  have hname : name = ['i', '\u0307', 'x'] := by decide +kernel
  have hneedle : needle = ['i', 'x'] := by decide +kernel
  have hsub : needle.Sublist name := by
    rw [hname, hneedle]
    decide
  have hgaps : ¬needle <:+: name := by
    rw [hname, hneedle]
    decide
  have hlength : needle.length = 2 := by rw [hneedle]; rfl
  obtain ⟨hpos, hfound, hscore⟩ := matchScore_finds_in_order "İX".toList "IX".toList
  obtain ⟨hten, htwenty⟩ := hscore hsub hgaps
  exact ⟨⟨hsub, hgaps⟩, hpos.mpr hsub, hfound.mpr hsub, hlength ▸ hten, htwenty⟩

/-! ## Sorting -/

section

variable {α : Type} {le : α → α → Bool}
  (htrans : ∀ a b c, le a b = true → le b c = true → le a c = true)
  (htotal : ∀ a b, (le a b || le b a) = true)
include htrans htotal

/-- The items of a class that an order does not tell apart keep their order. -/
theorem filter_mergeSort {p : α → Bool}
    (hequal : ∀ a b, p a = true → p b = true → le a b = true) (items : List α) :
    (items.mergeSort le).filter p = items.filter p := by
  have hclass : (items.filter p).Pairwise fun a b => le a b = true :=
    List.pairwise_of_forall_mem_list fun a ha b hb =>
      hequal a b (List.of_mem_filter ha) (List.of_mem_filter hb)
  have hsub := (List.sublist_mergeSort htrans htotal hclass List.filter_sublist).filter p
  rw [List.filter_filter] at hsub
  simp only [Bool.and_self] at hsub
  refine (hsub.eq_of_length ?_).symm
  exact ((List.mergeSort_perm items _).filter _).length_eq.symm

end

section

variable {α : Type} (score : α → Score)

/-- The order of falling scores. -/
def byScore (first second : α) : Bool :=
  decide (score second ≤ score first)

theorem byScore_trans (a b c : α) (hab : byScore score a b = true)
    (hbc : byScore score b c = true) : byScore score a c = true := by
  simp only [byScore, decide_eq_true_eq] at *
  exact le_trans hbc hab

theorem byScore_total (a b : α) : (byScore score a b || byScore score b a) = true := by
  simp only [byScore, Bool.or_eq_true, decide_eq_true_eq]
  exact le_total (score b) (score a)

/-- The scores of a sorted list fall. -/
theorem pairwise_mergeSort_byScore (items : List α) :
    (items.mergeSort (byScore score)).Pairwise fun a b => score b ≤ score a := by
  have hsorted := List.pairwise_mergeSort (byScore_trans score) (byScore_total score) items
  simpa only [byScore, decide_eq_true_eq] using hsorted

/-- The items of one score keep their order. -/
theorem filter_mergeSort_byScore (items : List α) (value : Score) :
    (items.mergeSort (byScore score)).filter (fun item => score item = value) =
      items.filter (fun item => score item = value) := by
  refine filter_mergeSort (byScore_trans score) (byScore_total score) (fun a b ha hb => ?_) items
  have hfirst : score a = value := by simpa using ha
  have hsecond : score b = value := by simpa using hb
  simp [byScore, hfirst, hsecond]

/-- In a sorted list an item stands in front of another if its score is higher, or if the
scores are equal and it has stood in front of it before. -/
theorem pairwise_mergeSort_byScore_stable (items : List α) :
    (items.mergeSort (byScore score)).Pairwise fun a b =>
      score b < score a ∨ (score b = score a ∧ [a, b].Sublist items) := by
  rw [List.pairwise_iff_forall_sublist]
  intro a b hsub
  have hle := List.pairwise_iff_forall_sublist.mp (pairwise_mergeSort_byScore score items) hsub
  rcases lt_or_eq_of_le hle with hlt | heq
  · exact Or.inl hlt
  · refine Or.inr ⟨heq, ?_⟩
    have hclass := hsub.filter fun item => score item = score a
    rw [filter_mergeSort_byScore] at hclass
    simp only [heq, List.filter_cons, decide_true, if_true, List.filter_nil] at hclass
    exact hclass.trans List.filter_sublist

end

end IssueSearch
