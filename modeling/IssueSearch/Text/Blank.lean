/-!
# Blank characters

The characters that separate words: those with the Unicode property
`White_Space`.  A text is trimmed by cutting the blanks at its two ends.

* `isBlank`, `isSolid`: the property and its complement;
* `trimStart`, `trimEnd`, `trim`: cutting blanks;
* `length_dropWhile_le`: cutting never makes a text longer.
-/

namespace IssueSearch.Text

/-- A character with the property `White_Space`. -/
def isBlank (c : Char) : Bool :=
  let n := c.toNat
  (0x09 ≤ n && n ≤ 0x0D) || n == 0x20 || n == 0x85 || n == 0xA0 || n == 0x1680 ||
    (0x2000 ≤ n && n ≤ 0x200A) || n == 0x2028 || n == 0x2029 || n == 0x202F || n == 0x205F ||
    n == 0x3000

/-- A character that is part of a word. -/
def isSolid (c : Char) : Bool :=
  !isBlank c

/-- The text without the blanks it starts with. -/
def trimStart (text : List Char) : List Char :=
  text.dropWhile isBlank

/-- The text without the blanks it ends with. -/
def trimEnd (text : List Char) : List Char :=
  (text.reverse.dropWhile isBlank).reverse

/-- The text without the blanks at its two ends. -/
def trim (text : List Char) : List Char :=
  trimEnd (trimStart text)

/-! ## Laws -/

/-- Every blank that core knows is a blank here. -/
theorem isBlank_of_isWhitespace (c : Char) (h : c.isWhitespace = true) :
    isBlank c = true := by
  have cases : c = ' ' ∨ c = '\t' ∨ c = '\r' ∨ c = '\n' := by
    simpa [Char.isWhitespace, or_assoc] using h
  rcases cases with rfl | rfl | rfl | rfl <;> decide

/-- Dropping a run from the front never makes a list longer. -/
theorem length_dropWhile_le {α : Type} (p : α → Bool) (xs : List α) :
    (xs.dropWhile p).length ≤ xs.length :=
  (List.dropWhile_suffix p).length_le

end IssueSearch.Text
