import IssueSearch.Proofs.Text.Blank
import IssueSearch.Proofs.Text.Offset
import Mathlib.Data.List.Induction
import Mathlib.Order.Bounds.Basic

/-!
# Places that fall inside a character

An offset that comes from outside may lie behind the text or inside a character.  Stepping back
from it byte by byte ends at the last boundary that is not after it, which is the one found
character by character, and slices between such places are always in bounds.

* `isGreatest_floorBoundary`: the boundary at or before an offset;
* `clamp?_eq`, `slice?_of_append`: steps and slices that are in bounds;
* `takeBytes_append`, `takeBytes_isPrefix`: the characters before an offset;
* `charOffsets_concat`, `IsLastWord`: the last character of a text, and its last word.
-/

namespace IssueSearch.Text

/-! ## The boundary before an offset -/

section

variable (offset : Nat) (before after : List Char)

/-- Behind a part, the characters before an offset are the part and those that follow it. -/
theorem takeBytes_append :
    takeBytes (byteLength before + offset) (before ++ after) =
      before ++ takeBytes offset after := by
  induction before with
  | nil => simp [byteLength]
  | cons c rest ih =>
    have hle : c.utf8Size ≤ c.utf8Size + byteLength rest + offset := by omega
    have hsub : c.utf8Size + byteLength rest + offset - c.utf8Size = byteLength rest + offset := by
      omega
    rw [List.cons_append, byteLength, takeBytes, if_pos hle, hsub, ih, List.cons_append]

/-- Behind a part, the boundary before an offset is counted from the end of the part. -/
theorem floorBoundary_append :
    floorBoundary (byteLength before + offset) (before ++ after) =
      byteLength before + floorBoundary offset after := by
  rw [← byteLength_takeBytes, takeBytes_append, byteLength_append, byteLength_takeBytes]

/-- The characters before the end of a part are the part. -/
theorem takeBytes_byteLength : takeBytes (byteLength before) (before ++ after) = before := by
  have hnone : takeBytes 0 after = [] := by
    cases after with
    | nil => rfl
    | cons c rest =>
      have hpos := c.utf8Size_pos
      rw [takeBytes, if_neg (by omega)]
  have h := takeBytes_append 0 before after
  rwa [Nat.add_zero, hnone, List.append_nil] at h

end

section

variable (text : String) (offset : Nat)

/-- The boundary before an offset is one. -/
theorem isValid_floorBoundary :
    String.Pos.Raw.IsValid text ⟨floorBoundary offset text.toList⟩ := by
  rw [← byteLength_takeBytes]
  exact isValid_of_append (takeBytes_append_dropBytes offset text.toList).symm

variable {text offset} in
/-- No boundary lies between an offset and the boundary before it. -/
theorem le_floorBoundary {place : Nat} (hplace : String.Pos.Raw.IsValid text ⟨place⟩)
    (hle : place ≤ offset) : place ≤ floorBoundary offset text.toList := by
  obtain ⟨before, after, htext, rfl, _⟩ := exists_append_of_isValid hplace
  obtain ⟨rest, rfl⟩ := Nat.exists_eq_add_of_le hle
  rw [htext, floorBoundary_append]
  exact Nat.le_add_right _ _

/-- The boundary before an offset is the greatest boundary of the text that is not after it. -/
theorem isGreatest_floorBoundary :
    IsGreatest {place | String.Pos.Raw.IsValid text ⟨place⟩ ∧
      place ≤ min offset text.utf8ByteSize} (floorBoundary offset text.toList) := by
  have hvalid := isValid_floorBoundary text offset
  refine ⟨⟨hvalid, le_min (floorBoundary_le offset text.toList) hvalid.le_rawEndPos⟩, ?_⟩
  rintro place ⟨hplace, hle⟩
  exact le_floorBoundary hplace (le_trans hle (min_le_left _ _))

/-- Stepping back ends at the boundary before the offset, and so at zero at the latest. -/
theorem stepBack?_eq : stepBack? text offset = some (floorBoundary offset text.toList) := by
  induction offset with
  | zero =>
    have hzero := floorBoundary_le 0 text.toList
    have hvalid := isValid_floorBoundary text 0
    rw [Nat.le_zero.mp hzero] at hvalid ⊢
    rw [stepBack?, if_pos hvalid]
  | succ offset ih =>
    have hvalid := isValid_floorBoundary text (offset + 1)
    have hle := floorBoundary_le (offset + 1) text.toList
    rw [stepBack?]
    split
    · next hhere => exact congrArg some (Nat.le_antisymm (le_floorBoundary hhere le_rfl) hle)
    · next hhere =>
      have hne : floorBoundary (offset + 1) text.toList ≠ offset + 1 :=
        fun heq => hhere (heq ▸ hvalid)
      -- the boundaries before the two offsets are the same
      have hback := le_floorBoundary hvalid (show _ ≤ offset by omega)
      have hforth := le_floorBoundary (isValid_floorBoundary text offset)
        (Nat.le_succ_of_le (floorBoundary_le offset text.toList))
      rw [ih, Nat.le_antisymm hback hforth]

/-- The boundary that is reached from an offset is the one before it. -/
theorem clamp?_eq : clamp? text offset = some (floorBoundary offset text.toList) := by
  rw [clamp?, stepBack?_eq]
  have hsmall := isGreatest_floorBoundary text (min offset text.utf8ByteSize)
  rw [min_assoc, min_self] at hsmall
  rw [hsmall.unique (isGreatest_floorBoundary text offset)]

end

/-- A part is the slice from its start to its end. -/
theorem slice?_of_append {text : String} {before part after : List Char}
    (h : text.toList = before ++ part ++ after) :
    slice? text (byteLength before) (byteLength (before ++ part)) = some (String.ofList part) := by
  have hfirst : text.toList = before ++ (part ++ after) := by
    rw [h, List.append_assoc]
  have hle : byteLength before ≤ byteLength (before ++ part) := by
    rw [byteLength_append]
    exact Nat.le_add_right _ _
  rw [slice?, if_pos ⟨hle, isValid_of_append hfirst, isValid_of_append h⟩, byteLength_append,
    extract_of_append h]

/-- The characters before an offset start with those before an earlier one. -/
theorem takeBytes_isPrefix {first last : Nat} (hle : first ≤ last) (text : List Char) :
    takeBytes first text <+: takeBytes last text := by
  have hfloor := floorBoundary_le first text
  rw [← byteLength_takeBytes] at hfloor
  obtain ⟨rest, hrest⟩ := Nat.exists_eq_add_of_le (le_trans hfloor hle)
  have hparts := takeBytes_append rest (takeBytes first text) (dropBytes first text)
  rw [takeBytes_append_dropBytes, ← hrest] at hparts
  exact ⟨_, hparts.symm⟩

/-! ## The last word -/

/-- The longest end of a text that holds no blank. -/
structure IsLastWord (text word : List Char) : Prop where
  isSuffix : word <:+ text
  solid : ∀ c ∈ word, isBlank c = false
  longest : ∀ other, other <:+ text → (∀ c ∈ other, isBlank c = false) → other <:+ word

theorem charOffsets_concat (start : Nat) (text : List Char) (c : Char) :
    charOffsets start (text ++ [c]) = charOffsets start text ++ [(start + byteLength text, c)] := by
  induction text generalizing start with
  | nil => rfl
  | cons d rest ih =>
    rw [List.cons_append, charOffsets, ih, charOffsets, byteLength, List.cons_append,
      Nat.add_assoc]

section

variable {before word : List Char} (hbefore : ∀ c ∈ before.getLast?, isBlank c = true)
  (hword : ∀ c ∈ word, isBlank c = false)
include hbefore hword

/-- What stands behind the last blank is the last word. -/
theorem isLastWord_append : IsLastWord (before ++ word) word := by
  refine ⟨List.suffix_append before word, hword, fun other hother hsolid => ?_⟩
  rcases List.suffix_or_suffix_of_suffix hother (List.suffix_append before word) with h | h
  · exact h
  · obtain ⟨more, rfl⟩ := h
    rw [List.suffix_append_self_iff] at hother
    rcases List.eq_nil_or_concat more with rfl | ⟨init, c, rfl⟩
    · exact List.suffix_rfl
    · -- a longer end holds the blank in front of the word
      obtain ⟨first, rfl⟩ := hother
      have hblank := hbefore c (by simp)
      rw [hsolid c (by simp)] at hblank
      cases hblank

end

/-- Before the end of a text stands its last word, and in front of that nothing or a blank. -/
theorem exists_append_lastWord (text : List Char) :
    let word := (text.reverse.takeWhile isSolid).reverse
    ∃ before, text = before ++ word ∧ (∀ c ∈ before.getLast?, isBlank c = true) ∧
      ∀ c ∈ word, isBlank c = false := by
  intro word
  refine ⟨(text.reverse.dropWhile isSolid).reverse, ?_, ?_, ?_⟩
  · rw [← List.reverse_append, List.takeWhile_append_dropWhile, List.reverse_reverse]
  · intro c hc
    rw [List.getLast?_reverse] at hc
    have hsolid := List.head?_dropWhile_not isSolid text.reverse
    rw [Option.mem_def.mp hc] at hsolid
    simpa [isSolid] using hsolid
  · intro c hc
    exact (isSolid_iff c).mp
      (List.all_eq_true.mp List.all_takeWhile c (List.mem_reverse.mp hc))

end IssueSearch.Text
