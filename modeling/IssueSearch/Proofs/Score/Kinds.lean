import IssueSearch.Proofs.Score
import Mathlib.Algebra.Order.Field.Basic
import Mathlib.Tactic.Linarith
import Mathlib.Tactic.NormNum
import Mathlib.Tactic.Tauto

/-!
# Kinds of matches by their scores

Every name matches what was typed in one of five ways, and a better kind of match scores
higher.  The kinds whose scores lie in a fixed interval are always in this order; characters
with gaps score ten each, so that enough of them reach every other kind.

* `MatchKind`, `MatchKind.Fits`: the kinds, from best to worst, and what each one asks for;
* `MatchKind.least_le`, `MatchKind.lt_least_add_one`: the interval of a kind;
* `MatchKind.ten_mul_lt_iff`: how many characters with gaps stay below a kind;
* `matchScore_ordered`: the kinds in the order of their scores.
-/

namespace IssueSearch

/-- The share of what was typed in a longer name is less than one, and more than none unless
nothing was typed. -/
theorem share_bounds {target typed : List Char} (h : typed.length < target.length) :
    share typed target < 1 ∧ (typed ≠ [] → 0 < share typed target) := by
  have htarget : (0 : Rat) < (target.length : Rat) := by
    exact_mod_cast Nat.lt_of_le_of_lt (Nat.zero_le _) h
  have hless : (typed.length : Rat) < (target.length : Rat) := by
    exact_mod_cast h
  have hshare : share typed target = (typed.length : Rat) / (target.length : Rat) := by
    rw [share, Rat.mkRat_eq_div]
    rfl
  rw [hshare]
  refine ⟨(div_lt_one htarget).mpr hless, fun hne => div_pos ?_ htarget⟩
  exact_mod_cast List.length_pos_iff.mpr hne

/-- How a name matches what was typed, from best to worst. -/
inductive MatchKind where
  /-- The name is what was typed. -/
  | whole
  /-- What was typed is a start of the name. -/
  | start
  /-- What was typed is a part of the name further on. -/
  | part
  /-- The characters stand in the name in order, with gaps. -/
  | spread
  | none
  deriving Repr, DecidableEq

namespace MatchKind

/-- The place in the order from best to worst. -/
def rank : MatchKind → Nat
  | whole => 0
  | start => 1
  | part => 2
  | spread => 3
  | none => 4

/-- The name matches in this way, both in lower case. -/
def Fits (target typed : List Char) : MatchKind → Prop
  | whole => target = typed
  | start => typed <+: target ∧ target ≠ typed
  | part => typed <:+: target ∧ ¬typed <+: target
  | spread => typed.Sublist target ∧ ¬typed <:+: target
  | none => ¬typed.Sublist target

instance (target typed : List Char) : (kind : MatchKind) → Decidable (kind.Fits target typed)
  | whole => inferInstanceAs (Decidable (target = typed))
  | start => inferInstanceAs (Decidable (typed <+: target ∧ target ≠ typed))
  | part => inferInstanceAs (Decidable (typed <:+: target ∧ ¬typed <+: target))
  | spread => inferInstanceAs (Decidable (typed.Sublist target ∧ ¬typed <:+: target))
  | none => inferInstanceAs (Decidable ¬typed.Sublist target)

/-- The score of a name that matches in this way. -/
def score (target typed : List Char) : MatchKind → Score
  | whole => 100
  | start => 90 + share typed target
  | part => 70 + share typed target
  | spread => 10 * typed.length
  | none => 0

/-- The least score of a kind. -/
def least : MatchKind → Score
  | whole => 100
  | start => 90
  | part => 70
  | spread => 20
  | none => 0

/-- How many characters with gaps score less than a match of this kind at most; there is no
such bound for the last two kinds. -/
def reach : MatchKind → Nat
  | whole => 9
  | start => 9
  | part => 7
  | spread => 0
  | none => 0

section

variable {target typed : List Char} {kind : MatchKind}

/-! ## The kind of a match -/

/-- A name matches in one way only. -/
theorem Fits.unique {other : MatchKind} (hkind : kind.Fits target typed)
    (hother : other.Fits target typed) : kind = other := by
  have hwhole : target = typed → typed <+: target := by
    rintro rfl
    exact List.prefix_refl _
  have hstart : typed <+: target → typed <:+: target := List.IsPrefix.isInfix
  have hpart : typed <:+: target → typed.Sublist target := List.IsInfix.sublist
  cases kind <;> cases other <;> simp only [Fits] at hkind hother <;> tauto

/-- Every name matches in some way, which its score shows. -/
theorem exists_fits (target typed : List Char) :
    ∃ kind : MatchKind, kind.Fits target typed ∧
      matchScoreLower target typed = kind.score target typed := by
  rcases matchScoreLower_cases target typed with ⟨hsame, h⟩ | ⟨hne, hstart, h⟩ |
    ⟨hnot, hpart, h⟩ | ⟨hnot, hsub, h⟩ | ⟨hnone, h⟩
  · exact ⟨whole, hsame, h⟩
  · exact ⟨start, ⟨hstart, hne⟩, h⟩
  · exact ⟨part, ⟨hpart, hnot⟩, h⟩
  · exact ⟨spread, ⟨hsub, hnot⟩, h⟩
  · exact ⟨none, hnone, h⟩

/-- The score of a name is that of the way in which it matches. -/
theorem Fits.matchScoreLower_eq (h : kind.Fits target typed) :
    matchScoreLower target typed = kind.score target typed := by
  obtain ⟨other, hother, hscore⟩ := exists_fits target typed
  rwa [h.unique hother]

/-! ## The scores of a kind -/

/-- A name is longer than what was typed if it goes on or starts with something else. -/
theorem Fits.length_lt (h : kind.Fits target typed) (hkind : kind = start ∨ kind = part) :
    typed.length < target.length := by
  rcases hkind with rfl | rfl
  · refine Nat.lt_of_le_of_ne h.1.length_le fun heq => h.2 ?_
    exact (h.1.eq_of_length heq).symm
  · refine Nat.lt_of_le_of_ne h.1.length_le fun heq => h.2 ?_
    rw [h.1.eq_of_length heq]

/-- No match of a kind scores less than its least score. -/
theorem Fits.least_le (h : kind.Fits target typed) :
    kind.least ≤ matchScoreLower target typed := by
  have hshare := share_nonneg target typed
  rw [h.matchScoreLower_eq]
  cases kind with
  | spread =>
    have hlength : (2 : Rat) ≤ (typed.length : Rat) := by
      exact_mod_cast two_le_length_of_sublist h.1 h.2
    simp only [least, score]
    linarith
  | _ => simp only [least, score]; linarith

/-- No match but one with gaps scores one more than the least score of its kind. -/
theorem Fits.lt_least_add_one (h : kind.Fits target typed) (hkind : kind ≠ spread) :
    matchScoreLower target typed < kind.least + 1 := by
  rw [h.matchScoreLower_eq]
  cases kind with
  | start =>
    have hshare := (share_bounds (h.length_lt (Or.inl rfl))).1
    simp only [least, score]
    linarith
  | part =>
    have hshare := (share_bounds (h.length_lt (Or.inr rfl))).1
    simp only [least, score]
    linarith
  | spread => exact absurd rfl hkind
  | _ => simp only [least, score]; linarith

/-- The kinds with intervals do not overlap. -/
theorem least_add_one_le {better worse : MatchKind} (hrank : better.rank < worse.rank)
    (hworse : worse ≠ spread) : worse.least + 1 ≤ better.least := by
  cases better <;> cases worse <;> simp_all [rank, least] <;> norm_num

/-- Characters with gaps score less than a better match if they are few. -/
theorem Fits.ten_mul_lt_iff (h : kind.Fits target typed) (hkind : kind.rank < spread.rank)
    (htyped : typed ≠ []) (count : Nat) :
    10 * (count : Score) < matchScoreLower target typed ↔ count ≤ kind.reach := by
  have hbounds : 10 * (kind.reach : Score) < matchScoreLower target typed ∧
      matchScoreLower target typed ≤ 10 * ((kind.reach : Score) + 1) := by
    rw [h.matchScoreLower_eq]
    cases kind with
    | whole =>
      simp only [score, reach]
      norm_num
    | start =>
      obtain ⟨hless, hpos⟩ := share_bounds (h.length_lt (Or.inl rfl))
      have hsome := hpos htyped
      simp only [score, reach, Nat.cast_ofNat]
      constructor <;> linarith
    | part =>
      obtain ⟨hless, hpos⟩ := share_bounds (h.length_lt (Or.inr rfl))
      have hsome := hpos htyped
      simp only [score, reach, Nat.cast_ofNat]
      constructor <;> linarith
    | spread => exact absurd hkind (lt_irrefl _)
    | none => exact absurd hkind (by decide)
  obtain ⟨hlow, hhigh⟩ := hbounds
  constructor
  · intro hlt
    have hcount : (count : Score) < (kind.reach : Score) + 1 := by linarith
    have hcount : count < kind.reach + 1 := by exact_mod_cast hcount
    omega
  · intro hle
    have hcount : (count : Score) ≤ (kind.reach : Score) := by exact_mod_cast hle
    linarith

end

/-! ## The order of the kinds -/

section

variable {first second typed : List Char} {better worse : MatchKind}

/-- A better kind of match scores higher, unless the other one is of many characters with
gaps. -/
theorem lt_iff_of_rank_lt (hrank : better.rank < worse.rank) (hfirst : better.Fits first typed)
    (hsecond : worse.Fits second typed) :
    matchScoreLower second typed < matchScoreLower first typed ↔
      (worse = spread → typed.length ≤ better.reach) := by
  by_cases hworse : worse = spread
  · subst hworse
    have htyped : typed ≠ [] := by
      have hlength := two_le_length_of_sublist hsecond.1 hsecond.2
      exact List.length_pos_iff.mp (by omega)
    have hscore : matchScoreLower second typed = 10 * typed.length := hsecond.matchScoreLower_eq
    rw [hscore, hfirst.ten_mul_lt_iff hrank htyped]
    simp
  · refine iff_of_true ?_ fun h => absurd h hworse
    calc
      matchScoreLower second typed < worse.least + 1 := hsecond.lt_least_add_one hworse
      _ ≤ better.least := least_add_one_le hrank hworse
      _ ≤ matchScoreLower first typed := hfirst.least_le

/-- Only more than ten characters with gaps score more than a whole name. -/
theorem matchScoreLower_le_hundred_iff :
    matchScoreLower first typed ≤ 100 ↔ ¬(spread.Fits first typed ∧ 10 < typed.length) := by
  obtain ⟨kind, hfits, -⟩ := exists_fits first typed
  by_cases hkind : kind = spread
  · subst hkind
    have hscore : matchScoreLower first typed = 10 * typed.length := hfits.matchScoreLower_eq
    have hten : 10 * (typed.length : Score) ≤ 100 ↔ typed.length ≤ 10 := by
      constructor
      · intro hle
        have hlength : (typed.length : Score) ≤ 10 := by linarith
        exact_mod_cast hlength
      · intro hle
        have hlength : (typed.length : Score) ≤ 10 := by exact_mod_cast hle
        linarith
    rw [hscore, hten, not_and, Nat.not_lt]
    exact ⟨fun hle _ => hle, fun h => h hfits⟩
  · have hless := hfits.lt_least_add_one hkind
    refine iff_of_true ?_ fun hspread => hkind (hfits.unique hspread.1)
    cases kind with
    | whole => exact le_of_eq hfits.matchScoreLower_eq
    | spread => exact absurd rfl hkind
    | _ => simp only [least] at hless; linarith

end

end MatchKind

/-- Every name matches what was typed in one way, letter case aside, and a better kind of match
scores higher; but characters with gaps do not stay below a whole name or a start from ten on,
nor below a part from eight on.  Names that do not match score nothing, and only characters
with gaps, from eleven on, score more than a whole name. -/
theorem matchScore_ordered (typed : List Char) :
    (∀ target, ∃! kind : MatchKind, kind.Fits (Text.lowercase target) (Text.lowercase typed)) ∧
      (∀ (better worse : MatchKind) (first second : List Char), better.rank < worse.rank →
        better.Fits (Text.lowercase first) (Text.lowercase typed) →
        worse.Fits (Text.lowercase second) (Text.lowercase typed) →
        (matchScore second typed < matchScore first typed ↔
          (worse = .spread → (Text.lowercase typed).length ≤ better.reach))) ∧
      (∀ target, MatchKind.none.Fits (Text.lowercase target) (Text.lowercase typed) →
        matchScore target typed = 0) ∧
      ∀ target, matchScore target typed ≤ 100 ↔
        ¬(MatchKind.spread.Fits (Text.lowercase target) (Text.lowercase typed) ∧
          10 < (Text.lowercase typed).length) := by
  refine ⟨fun target => ?_, fun better worse first second hrank hfirst hsecond => ?_,
    fun target hnone => ?_, fun target => ?_⟩
  · obtain ⟨kind, hfits, -⟩ :=
      MatchKind.exists_fits (Text.lowercase target) (Text.lowercase typed)
    exact ⟨kind, hfits, fun other hother => hother.unique hfits⟩
  · exact MatchKind.lt_iff_of_rank_lt hrank hfirst hsecond
  · exact hnone.matchScoreLower_eq
  · exact MatchKind.matchScoreLower_le_hundred_iff

/-- Seven characters with gaps stay below a part of a name with the same characters. -/
theorem matchScore_ordered_seven :
    let needle := Text.lowercase "LastSee".toList
    (MatchKind.part.Fits (Text.lowercase "THE_LASTSEEN".toList) needle ∧
      MatchKind.spread.Fits (Text.lowercase "last_seen".toList) needle) ∧
      matchScore "last_seen".toList "LastSee".toList <
        matchScore "THE_LASTSEEN".toList "LastSee".toList := by
  intro needle
  have hpart : MatchKind.part.Fits (Text.lowercase "THE_LASTSEEN".toList) needle := by
    decide +kernel
  have hspread : MatchKind.spread.Fits (Text.lowercase "last_seen".toList) needle := by
    decide +kernel
  obtain ⟨-, hordered, -, -⟩ := matchScore_ordered "LastSee".toList
  refine ⟨⟨hpart, hspread⟩, (hordered .part .spread _ _ (by decide) hpart hspread).mpr fun _ => ?_⟩
  decide +kernel

/-- Enough characters with gaps score more than a part of a name, than its start and even than
the whole name. -/
theorem exists_spread_above_whole :
    let typed := "lastseenbefore".toList
    let whole := "LastSeenBefore".toList
    let start := "lastSeenBeforeNow".toList
    let part := "wasLastSeenBefore".toList
    let spread := "last_seen_before".toList
    let none := "level".toList
    let needle := Text.lowercase typed
    (MatchKind.whole.Fits (Text.lowercase whole) needle ∧
      MatchKind.start.Fits (Text.lowercase start) needle ∧
      MatchKind.part.Fits (Text.lowercase part) needle ∧
      MatchKind.spread.Fits (Text.lowercase spread) needle ∧
      MatchKind.none.Fits (Text.lowercase none) needle) ∧
      matchScore part typed < matchScore spread typed ∧
      matchScore start typed < matchScore spread typed ∧
      matchScore whole typed < matchScore spread typed := by
  intro typed whole start part spread none needle
  decide +kernel

end IssueSearch
