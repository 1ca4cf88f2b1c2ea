import IssueSearch.Text.Offset
import Mathlib.Data.String.Basic

/-!
# Slices of a text by byte offsets

A text that is put together from parts has a boundary between any two of them,
and the slice between two boundaries is the part that lies there.

* `byteLength_eq_utf8Len`: the size of a text agrees with the library's;
* `isValid_of_append`: a place between two parts is a boundary;
* `extract_of_append`: the slice from the start of a part to its end, with
  `extract_start` and `extract_end` for what stands in front of a part and behind it;
* `exists_append_of_isValid`: a boundary lies between two parts.
-/

namespace IssueSearch.Text

/-- The size of a text is the one that the library counts. -/
theorem byteLength_eq_utf8Len (text : List Char) : byteLength text = String.utf8Len text := by
  rw [byteLength_eq_utf8ByteSize, String.utf8ByteSize_ofList]

/-- A text that is not empty has a size. -/
theorem byteLength_pos {text : List Char} (h : text ≠ []) : 0 < byteLength text := by
  cases text with
  | nil => exact absurd rfl h
  | cons c rest =>
    have hc := c.utf8Size_pos
    rw [byteLength]
    omega

/-- The place behind the first of two parts is a boundary. -/
theorem isValid_of_append {text : String} {before after : List Char}
    (h : text.toList = before ++ after) :
    String.Pos.Raw.IsValid text ⟨byteLength before⟩ := by
  rw [String.Pos.Raw.isValid_iff_exists_append]
  refine ⟨String.ofList before, String.ofList after, ?_, ?_⟩
  · rw [← String.ofList_append, ← h, String.ofList_toList]
  · rw [byteLength_eq_utf8ByteSize]
    rfl

/-- The slice from the start of a part to its end is the part. -/
theorem extract_of_append {text : String} {before part after : List Char}
    (h : text.toList = before ++ part ++ after) :
    String.Pos.Raw.extract text ⟨byteLength before⟩ ⟨byteLength before + byteLength part⟩ =
      String.ofList part := by
  have hslice := String.extract_of_valid before part after
  rw [← h, String.ofList_toList] at hslice
  rw [byteLength_eq_utf8Len, byteLength_eq_utf8Len, hslice]

/-- The slice up to a part is what stands in front of it. -/
theorem extract_start {text : String} {before after : List Char}
    (h : text.toList = before ++ after) :
    String.Pos.Raw.extract text ⟨0⟩ ⟨byteLength before⟩ = String.ofList before := by
  have hparts : text.toList = [] ++ before ++ after := by
    rw [h, List.nil_append]
  rw [← extract_of_append hparts]
  simp [byteLength]

/-- The slice behind a part is what stands behind it. -/
theorem extract_end {text : String} {before after : List Char}
    (h : text.toList = before ++ after) :
    String.Pos.Raw.extract text ⟨byteLength before⟩ ⟨text.utf8ByteSize⟩ = String.ofList after := by
  have hparts : text.toList = before ++ after ++ [] := by
    rw [h, List.append_nil]
  have hsize : text.utf8ByteSize = byteLength before + byteLength after := by
    rw [← byteLength_append, ← h, byteLength_eq_utf8ByteSize, String.ofList_toList]
  rw [hsize, extract_of_append hparts]

/-- A boundary lies between two parts, and the slice up to it is the first of them. -/
theorem exists_append_of_isValid {text : String} {place : Nat}
    (h : String.Pos.Raw.IsValid text ⟨place⟩) :
    ∃ before after, text.toList = before ++ after ∧ byteLength before = place ∧
      String.Pos.Raw.extract text ⟨0⟩ ⟨place⟩ = String.ofList before := by
  obtain ⟨first, second, htext, hplace⟩ := String.Pos.Raw.isValid_iff_exists_append.mp h
  have hlist : text.toList = first.toList ++ second.toList := by
    rw [htext, String.toList_append]
  have hbytes : byteLength first.toList = place := by
    rw [byteLength_eq_utf8ByteSize, String.ofList_toList]
    exact (congrArg String.Pos.Raw.byteIdx hplace).symm
  refine ⟨first.toList, second.toList, hlist, hbytes, ?_⟩
  rw [← hbytes]
  exact extract_start hlist

end IssueSearch.Text
