import IssueSearch.Text.Blank
import Mathlib.Data.List.TakeWhile

/-!
# Words and blanks

* `IsSeam`: what may follow a word, which is nothing or a blank;
* `takeWhile_isSolid_append`, `dropWhile_isSolid_append`: a word before a seam is
  found again;
* `trim_of_solid`, `mem_of_mem_trim`, `trim_eq_nil_iff`, `length_trim_le`: trimming
  keeps words and adds nothing;
* `trim_between_blanks`: trimming finds the word between blanks;
* `IsValue`, `IsWord`: what can be written as one value or one word;
* `isBlank_of_isDigit`: digits are no blanks.
-/

namespace IssueSearch.Text

/-- A character is part of a word exactly when it is no blank. -/
theorem isSolid_iff (c : Char) : isSolid c = true ↔ isBlank c = false := by
  simp [isSolid]

/-- A text that a word may stand before: it is empty or starts with a blank. -/
def IsSeam (rest : List Char) : Prop :=
  ∀ c ∈ rest.head?, isBlank c = true

theorem isSeam_nil : IsSeam [] := by
  intro c hc
  cases hc

theorem isSeam_cons {c : Char} (rest : List Char) (h : isBlank c = true) :
    IsSeam (c :: rest) := by
  intro d hd
  cases hd
  exact h

/-- The word before a seam is the run of solid characters. -/
theorem takeWhile_isSolid_append {word rest : List Char} (hword : ∀ c ∈ word, isSolid c = true)
    (hrest : IsSeam rest) : (word ++ rest).takeWhile isSolid = word := by
  rw [List.takeWhile_append_of_pos hword]
  cases rest with
  | nil => simp
  | cons c rest => simp [isSolid, hrest c rfl]

/-- What follows the run of solid characters is the seam. -/
theorem dropWhile_isSolid_append {word rest : List Char} (hword : ∀ c ∈ word, isSolid c = true)
    (hrest : IsSeam rest) : (word ++ rest).dropWhile isSolid = rest := by
  rw [List.dropWhile_append_of_pos hword]
  cases rest with
  | nil => simp
  | cons c rest => simp [isSolid, hrest c rfl]

/-- A text of solid characters only loses nothing by trimming at its start. -/
theorem trimStart_of_solid {text : List Char} (h : ∀ c ∈ text, isSolid c = true) :
    trimStart text = text := by
  cases text with
  | nil => rfl
  | cons c rest =>
    have hc := (isSolid_iff c).mp (h c (by simp))
    simp [trimStart, hc]

/-- A word is trimmed already. -/
theorem trim_of_solid {text : List Char} (h : ∀ c ∈ text, isSolid c = true) :
    trim text = text := by
  have hreverse : ∀ c ∈ text.reverse, isSolid c = true := by simpa using h
  have hend : text.reverse.dropWhile isBlank = text.reverse := trimStart_of_solid hreverse
  rw [trim, trimStart_of_solid h, trimEnd, hend, List.reverse_reverse]

/-- A trimmed text has no other characters. -/
theorem mem_of_mem_trim {c : Char} {text : List Char} (h : c ∈ trim text) : c ∈ text := by
  simp only [trim, trimEnd, trimStart, List.mem_reverse] at h
  have hstart := (List.dropWhile_suffix isBlank).subset h
  exact (List.dropWhile_suffix isBlank).subset (List.mem_reverse.mp hstart)

/-- Nothing is left of a text by trimming if, and only if, the text is blank. -/
theorem trim_eq_nil_iff {text : List Char} : trim text = [] ↔ ∀ c ∈ text, isBlank c = true := by
  rw [trim, trimEnd, List.reverse_eq_nil_iff, List.dropWhile_eq_nil_iff]
  simp only [List.mem_reverse, trimStart]
  constructor
  · intro h
    have hnil : text.dropWhile isBlank = [] := by
      cases hrest : text.dropWhile isBlank with
      | nil => rfl
      | cons c rest =>
        have hc := List.head?_dropWhile_not isBlank text
        rw [hrest] at h hc
        have hblank := h c List.mem_cons_self
        simp [hblank] at hc
    exact List.dropWhile_eq_nil_iff.mp hnil
  · intro h c hc
    exact h c ((List.dropWhile_suffix isBlank).subset hc)

/-- The word between blanks is found by trimming. -/
theorem trim_between_blanks {before word after : List Char}
    (hbefore : ∀ c ∈ before, isBlank c = true) (hword : ∀ c ∈ word, isSolid c = true)
    (hafter : ∀ c ∈ after, isBlank c = true) : trim (before ++ word ++ after) = word := by
  cases word with
  | nil =>
    rw [trim_eq_nil_iff, List.append_nil]
    intro c hc
    exact (List.mem_append.mp hc).elim (hbefore c) (hafter c)
  | cons c rest =>
    have hc := (isSolid_iff c).mp (hword c List.mem_cons_self)
    have hstart : trimStart (before ++ (c :: rest) ++ after) = c :: rest ++ after := by
      rw [trimStart, List.append_assoc, List.dropWhile_append_of_pos hbefore, List.cons_append,
        List.dropWhile_cons_of_neg (by simp [hc])]
    have hend : ∀ d ∈ after.reverse, isBlank d = true := fun d hd =>
      hafter d (List.mem_reverse.mp hd)
    have hsolid : ∀ d ∈ (c :: rest).reverse, isSolid d = true := fun d hd =>
      hword d (List.mem_reverse.mp hd)
    have hreverse : (c :: rest).reverse.dropWhile isBlank = (c :: rest).reverse :=
      trimStart_of_solid hsolid
    rw [trim, hstart, trimEnd, List.reverse_append, List.dropWhile_append_of_pos hend, hreverse,
      List.reverse_reverse]

/-- Trimming makes no text longer. -/
theorem length_trim_le (text : List Char) : (trim text).length ≤ text.length := by
  have hstart := length_dropWhile_le isBlank text
  have hend := length_dropWhile_le isBlank (trimStart text).reverse
  rw [List.length_reverse] at hend
  rw [trim, trimEnd, List.length_reverse]
  exact Nat.le_trans hend hstart

/-- A text that one value can stand for: it has no quotes, or it has no blanks and
does not start with a quote. -/
def IsValue (text : List Char) : Prop :=
  '"' ∉ text ∨ (∀ c ∈ text, isSolid c = true) ∧ text.head? ≠ some '"'

/-- A value that is not empty. -/
def IsWord (text : List Char) : Prop :=
  text ≠ [] ∧ IsValue text

/-- What one value can stand for, it can stand for without blanks at its ends. -/
theorem IsValue.trim {text : List Char} (h : IsValue text) : IsValue (Text.trim text) := by
  rcases h with hquote | ⟨hsolid, hhead⟩
  · exact Or.inl fun hmem => hquote (mem_of_mem_trim hmem)
  · rw [trim_of_solid hsolid]
    exact Or.inr ⟨hsolid, hhead⟩

/-- The code points of the digits. -/
theorem toNat_of_isDigit {c : Char} (h : c.isDigit = true) : 48 ≤ c.toNat ∧ c.toNat ≤ 57 := by
  simpa using Char.isDigit_iff_toNat.mp h

/-- A digit is no blank. -/
theorem isBlank_of_isDigit {c : Char} (h : c.isDigit = true) : isBlank c = false := by
  obtain ⟨hlow, hhigh⟩ := toNat_of_isDigit h
  simp only [isBlank, Bool.or_eq_false_iff, Bool.and_eq_false_iff, decide_eq_false_iff_not,
    beq_eq_false_iff_ne]
  omega

end IssueSearch.Text
