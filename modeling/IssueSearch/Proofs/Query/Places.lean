import IssueSearch.Cli.Commands
import IssueSearch.Proofs.Query.Removal
import IssueSearch.Proofs.Text.Boundary

/-!
# Places in a query

A cursor and the marks under a rejected token are given by byte offsets.  Both are taken at the
last boundary that is not behind the offset, so that every slice of the query is in bounds,
whatever the offset is.

* `wordStart_append`: where the last word of a text starts;
* `wordBefore?_eq`, `caretLine?_eq`: the slices of the query are always in bounds, and are the
  word and the marks found by characters;
* `caretLine_of_isAt`: the marks under a token;
* `places_are_boundaries`: all of them for a query.
-/

namespace IssueSearch

open Completion (wordBefore)
open Text (isBlank byteLength floorBoundary takeBytes dropBytes)
open Time (Instant)

/-! ## The start of the last word -/

namespace Completion

/-- The last character of a text is a blank, or the last word is that of the text before it. -/
theorem wordStart_concat (text : List Char) (c : Char) :
    wordStart (text ++ [c]) =
      if isBlank c = true then byteLength (text ++ [c]) else wordStart text := by
  rw [wordStart, Text.charOffsets_concat, List.reverse_append, List.reverse_singleton,
    List.singleton_append, List.find?_cons]
  cases hc : isBlank c with
  | true => simp [hc, Text.byteLength_append, byteLength]
  | false => simp [hc, wordStart]

/-- The last word starts behind what stands in front of it. -/
theorem wordStart_append {before word : List Char}
    (hbefore : ∀ c ∈ before.getLast?, isBlank c = true)
    (hword : ∀ c ∈ word, isBlank c = false) :
    wordStart (before ++ word) = byteLength before := by
  induction word using List.reverseRecOn with
  | nil =>
    rcases List.eq_nil_or_concat before with rfl | ⟨init, c, rfl⟩
    · rfl
    · rw [List.append_nil, List.concat_eq_append, wordStart_concat,
        if_pos (hbefore c (by simp))]
  | append_singleton word c ih =>
    rw [← List.append_assoc, wordStart_concat, if_neg (by simp [hword c]),
      ih fun d hd => hword d (List.mem_append_left _ hd)]

end Completion

/-! ## Slices of a query -/

section

variable (query : String) (cursor : Nat)

/-- What stands before an offset is the slice up to the boundary there. -/
theorem slice?_floorBoundary :
    Text.slice? query 0 (floorBoundary cursor query.toList) =
      some (String.ofList (takeBytes cursor query.toList)) := by
  have hparts : query.toList = [] ++ takeBytes cursor query.toList ++
      dropBytes cursor query.toList := by
    rw [List.nil_append, Text.takeBytes_append_dropBytes]
  have hslice := Text.slice?_of_append hparts
  rwa [List.nil_append, Text.byteLength_takeBytes] at hslice

/-- What stands before the cursor is some text with the word behind it, which is the last one
there. -/
theorem exists_append_wordBefore :
    ∃ before, takeBytes cursor query.toList = before ++ wordBefore query.toList cursor ∧
      Completion.wordStart (takeBytes cursor query.toList) = byteLength before ∧
      Text.IsLastWord (takeBytes cursor query.toList) (wordBefore query.toList cursor) := by
  obtain ⟨before, htext, hblank, hsolid⟩ :=
    Text.exists_append_lastWord (takeBytes cursor query.toList)
  have hstart := Completion.wordStart_append hblank hsolid
  have hlast := Text.isLastWord_append hblank hsolid
  rw [← htext] at hstart hlast
  exact ⟨before, htext, hstart, hlast⟩

/-- The word before the cursor is a slice of the query. -/
theorem wordBefore?_eq :
    Completion.wordBefore? query cursor =
      some (String.ofList (wordBefore query.toList cursor)) := by
  obtain ⟨before, htext, hstart, _⟩ := exists_append_wordBefore query cursor
  have hparts : (String.ofList (takeBytes cursor query.toList)).toList =
      before ++ wordBefore query.toList cursor ++ [] := by
    rw [String.toList_ofList, List.append_nil, htext]
  have hslice := Text.slice?_of_append hparts
  rw [← htext, ← hstart, Text.byteLength_eq_utf8ByteSize] at hslice
  simp only [Completion.wordBefore?, Text.clamp?_eq, Option.bind_eq_bind, Option.bind_some,
    slice?_floorBoundary, String.toList_ofList, hslice]

/-- An offset that is not before another one is at the same boundary if the other one is moved
back to its own boundary. -/
theorem floorBoundary_max (first last : Nat) (text : String) :
    floorBoundary (max last (floorBoundary first text.toList)) text.toList =
      floorBoundary (max last first) text.toList := by
  have hfirst := Text.floorBoundary_le first text.toList
  have hmax : max last (floorBoundary first text.toList) ≤ max last first := by omega
  refine Nat.le_antisymm ?_ ?_
  · exact Text.le_floorBoundary (Text.isValid_floorBoundary text _)
      (le_trans (Text.floorBoundary_le _ _) hmax)
  · have hvalid := Text.isValid_floorBoundary text (max last first)
    have hle := Text.floorBoundary_le (max last first) text.toList
    refine Text.le_floorBoundary hvalid ?_
    -- a boundary that is not behind the other offset is not behind its boundary either
    rcases le_max_iff.mp hle with hlast | hother
    · exact le_max_of_le_left hlast
    · exact le_max_of_le_right (Text.le_floorBoundary hvalid hother)

/-- The marks are under a slice of the query. -/
theorem caretLine?_eq (first last : Nat) :
    Cli.caretLine? query first last = some (Cli.caretLine query first last) := by
  obtain ⟨marked, hmarked⟩ :=
    Text.takeBytes_isPrefix (Nat.le_max_right last first) query.toList
  have hparts : query.toList = takeBytes first query.toList ++ marked ++
      dropBytes (max last first) query.toList := by
    rw [hmarked, Text.takeBytes_append_dropBytes]
  have hslice := Text.slice?_of_append hparts
  rw [hmarked, Text.byteLength_takeBytes, Text.byteLength_takeBytes] at hslice
  have hlength : (takeBytes (max last first) query.toList).length -
      (takeBytes first query.toList).length = marked.length := by
    rw [← hmarked, List.length_append, Nat.add_sub_cancel_left]
  simp only [Cli.caretLine?, Cli.floorBoundary?, Text.clamp?_eq, Option.bind_eq_bind,
    Option.bind_some, slice?_floorBoundary, floorBoundary_max, hslice]
  simp [Cli.caretLine, hlength]

end

/-! ## Marks -/

/-- The marks under a token: as many blanks as there are characters in front of it, and one mark
for each of its own. -/
theorem caretLine_of_isAt {query : String} {token : Token} (h : token.IsAt 0 query.toList) :
    ∃ before after, query.toList = before ++ token.raw.toList ++ after ∧
      byteLength before = token.startIndex ∧
      Cli.caretLine query token.startIndex token.endIndex =
        Table.repeated before.length ' ' ++ Table.repeated token.raw.length '^' := by
  obtain ⟨before, after, htext, hraw, hstart, hend⟩ := h
  rw [Nat.zero_add] at hstart
  have hlast : token.endIndex = byteLength (before ++ token.raw.toList) := by
    rw [hend, hstart, Text.byteLength_append]
  have hmax : max token.endIndex token.startIndex = byteLength (before ++ token.raw.toList) := by
    omega
  have hbefore : takeBytes token.startIndex query.toList = before := by
    rw [hstart, htext, List.append_assoc, Text.takeBytes_byteLength]
  have hupTo : takeBytes (max token.endIndex token.startIndex) query.toList =
      before ++ token.raw.toList := by
    rw [hmax, htext, Text.takeBytes_byteLength]
  have hwidth : max ((before ++ token.raw.toList).length - before.length) 1 =
      token.raw.length := by
    have hpos := List.length_pos_iff.mpr hraw
    rw [String.length_toList] at hpos
    rw [List.length_append, Nat.add_sub_cancel_left, String.length_toList, Nat.max_eq_left hpos]
  refine ⟨before, after, htext, hstart.symm, ?_⟩
  simp only [Cli.caretLine, hbefore, hupTo, hwidth]

/-- Every cursor is at the last boundary that is not behind it, which is reached by stepping back
and never below zero, and so are the ends of every row of marks.  The word before the cursor is the
longest one without a blank that ends there, and a slice of the query.  The marks between any two
offsets, in order or not, are under a slice of the query too, and there is one at least.  A
diagnostic has its marks under its token: behind as many blanks as there are characters in front of
the token, one for each of its own. -/
theorem places_are_boundaries (query : String) :
    (∀ cursor, ∃ place before,
      IsGreatest {boundary | String.Pos.Raw.IsValid query ⟨boundary⟩ ∧
        boundary ≤ min cursor query.utf8ByteSize} place ∧
      Text.clamp? query cursor = some place ∧ Cli.floorBoundary? query cursor = some place ∧
      Text.slice? query 0 place = some before ∧
      Text.IsLastWord before.toList (wordBefore query.toList cursor) ∧
      Completion.wordBefore? query cursor =
        some (String.ofList (wordBefore query.toList cursor))) ∧
    (∀ first last, Cli.caretLine? query first last = some (Cli.caretLine query first last) ∧
      ∃ blanks marks, 0 < marks ∧ Cli.caretLine query first last =
        Table.repeated blanks ' ' ++ Table.repeated marks '^') ∧
    (∀ (schema : Schema) (now : Instant), ∀ error ∈ (schema.parse now query).errors,
      ∃ token ∈ schema.tokenize query, error.isAt token = true ∧
        token.effect schema now = .reject error.cause ∧
        ∃ before after, query.toList = before ++ token.raw.toList ++ after ∧
          byteLength before = error.startIndex ∧
          Cli.caretLine query error.startIndex error.endIndex =
            Table.repeated before.length ' ' ++ Table.repeated token.raw.length '^') := by
  refine ⟨fun cursor => ?_, fun first last => ⟨caretLine?_eq query first last, ?_⟩,
    fun schema now error herror => ?_⟩
  · obtain ⟨_, _, _, hlast⟩ := exists_append_wordBefore query cursor
    refine ⟨_, _, Text.isGreatest_floorBoundary query cursor, Text.clamp?_eq query cursor,
      Text.clamp?_eq query cursor, slice?_floorBoundary query cursor, ?_,
      wordBefore?_eq query cursor⟩
    rwa [String.toList_ofList]
  · exact ⟨_, _, Nat.le_max_right _ 1, rfl⟩
  · obtain ⟨token, hmem, hdiagnostic⟩ := exists_of_mem_errors herror
    obtain ⟨heffect, hat⟩ := diagnostic?_eq_some hdiagnostic
    obtain ⟨hstart, hend⟩ := Diagnostic.isAt_iff.mp hat
    refine ⟨token, hmem, hat, heffect, ?_⟩
    rw [hstart, hend]
    exact caretLine_of_isAt (isAt_of_mem_scanFrom schema 0 query.toList token hmem)

/-- A cursor inside the last character of a rejected level, behind a wide blank and an accent. -/
theorem places_are_boundaries_wide :
    let query := "\u3000é level:né"
    let error := Diagnostic.ofCause
      (.invalidEnumValue "level" "né" ["fatal", "error", "warning", "info"]) 6 15
    (Text.clamp? query 14 = some 13 ∧ Completion.wordBefore? query 14 = some "level:n" ∧
      Cli.caretLine query 6 15 = "   ^^^^^^^^" ∧ Cli.caretLine query 99 2 = "           ^") ∧
    error ∈ (Schema.standard.parse ⟨0, 0⟩ query).errors ∧
    ∃ token ∈ Schema.standard.tokenize query, error.isAt token = true ∧
      token.effect .standard ⟨0, 0⟩ = .reject error.cause ∧
      ∃ before after, query.toList = before ++ token.raw.toList ++ after ∧
        byteLength before = error.startIndex ∧
        Cli.caretLine query error.startIndex error.endIndex =
          Table.repeated before.length ' ' ++ Table.repeated token.raw.length '^' := by
  intro query error
  have hmem : error ∈ (Schema.standard.parse ⟨0, 0⟩ query).errors := by decide +kernel
  exact ⟨by decide +kernel, hmem,
    (places_are_boundaries query).2.2 .standard ⟨0, 0⟩ error hmem⟩

end IssueSearch
