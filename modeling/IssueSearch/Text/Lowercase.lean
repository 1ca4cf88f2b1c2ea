import IssueSearch.Text.LetterCase

/-!
# Lower case

The full lower-case mapping of the Unicode standard.  One letter has two
characters as its lower-case form (`İ`), and the capital sigma is written as a
final sigma at the end of a word.

* `lowerChar`: one character outside the sigma rule;
* `lowercase`: a whole text;
* `lowerAscii`, `eqIgnoreCase`: the mapping on `A` to `Z` alone, and equality
  up to it;
* `lowercase_ascii`: the two mappings agree on ASCII texts.
-/

namespace IssueSearch.Text

/-- The lower-case form of a character, apart from the rule of the final
sigma. -/
def lowerChar (c : Char) : List Char :=
  if c.toNat < 0x80 then [c.toLower]
  else if c = 'İ' then ['i', '\u0307']
  else match lowerRuns.find? (·.has c.toNat) with
    | some run => [Char.ofNat (c.toNat + run.shift).toNat]
    | none => [c]

/-- Whether the text starts, after characters without weight for letter case,
with a cased letter. -/
def startsCased (text : List Char) : Bool :=
  match text.dropWhile (inRuns ignorableRuns ·.toNat) with
  | c :: _ => inRuns casedRuns c.toNat
  | [] => false

/-- The lower-case form of `text` after the characters `before`, which stand in
reverse. -/
def lowercaseAfter (before : List Char) : List Char → List Char
  | [] => []
  | c :: rest =>
      let lowered :=
        if c = 'Σ' then [if startsCased before && !startsCased rest then 'ς' else 'σ']
        else lowerChar c
      lowered ++ lowercaseAfter (c :: before) rest

/-- The lower-case form of a text. -/
def lowercase (text : List Char) : List Char :=
  lowercaseAfter [] text

/-- The text with `A` to `Z` in lower case. -/
def lowerAscii (text : List Char) : List Char :=
  text.map Char.toLower

/-- Whether two texts are equal up to the case of `A` to `Z`. -/
def eqIgnoreCase (a b : List Char) : Bool :=
  lowerAscii a == lowerAscii b

/-! ## Laws -/

/-- On ASCII characters the full mapping is the ASCII one. -/
theorem lowerChar_ascii (c : Char) (h : c.toNat < 0x80) :
    lowerChar c = [c.toLower] := by
  simp [lowerChar, h]

/-- On ASCII texts the full mapping is the ASCII one. -/
theorem lowercaseAfter_ascii (text : List Char) (h : ∀ c ∈ text, c.toNat < 0x80) :
    ∀ before, lowercaseAfter before text = lowerAscii text := by
  induction text with
  | nil => intro _; rfl
  | cons c rest ih =>
    intro before
    have hc : c.toNat < 0x80 := h c (by simp)
    have hs : c ≠ 'Σ' := by
      rintro rfl
      exact absurd hc (by decide)
    simp [lowercaseAfter, hs, lowerChar_ascii c hc, lowerAscii,
      ih (fun d hd => h d (List.mem_cons_of_mem _ hd))]

/-- On ASCII texts the full mapping is the ASCII one. -/
theorem lowercase_ascii (text : List Char) (h : ∀ c ∈ text, c.toNat < 0x80) :
    lowercase text = lowerAscii text :=
  lowercaseAfter_ascii text h []

/-- Equality up to ASCII case says that the lower-case forms agree. -/
theorem eqIgnoreCase_iff (a b : List Char) :
    eqIgnoreCase a b = true ↔ lowerAscii a = lowerAscii b := by
  simp [eqIgnoreCase]

end IssueSearch.Text
