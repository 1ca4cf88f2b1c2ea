import IssueSearch.Text.Lowercase

/-!
# Lower case has no capitals

No lower-case form holds one of the capitals `A` to `Z`, so the ASCII mapping
leaves it as it is.

* `isUpper_of_mem_lowerChar`, `isUpper_of_mem_lowercaseAfter`: no capitals are left;
* `lowerAscii_lowercase`: the ASCII mapping changes nothing more.
-/

namespace IssueSearch.Text

/-- A capital has a code point from 65 to 90. -/
theorem isUpper_iff (c : Char) : c.isUpper = true ↔ 65 ≤ c.toNat ∧ c.toNat ≤ 90 := by
  show decide (c.val ≥ 'A'.val ∧ c.val ≤ 'Z'.val) = true ↔ _
  rw [decide_eq_true_eq, ge_iff_le, UInt32.le_iff_toNat_le, UInt32.le_iff_toNat_le]
  exact Iff.rfl

/-- A small letter has a code point from 97 to 122. -/
theorem isLower_iff (c : Char) : c.isLower = true ↔ 97 ≤ c.toNat ∧ c.toNat ≤ 122 := by
  show (decide (c.val ≥ 'a'.val) && decide (c.val ≤ 'z'.val)) = true ↔ _
  rw [Bool.and_eq_true, decide_eq_true_eq, decide_eq_true_eq, ge_iff_le,
    UInt32.le_iff_toNat_le, UInt32.le_iff_toNat_le]
  exact Iff.rfl

/-- The ASCII mapping leaves anything but capitals. -/
theorem toLower_of_not_isUpper {c : Char} (h : c.isUpper = false) : c.toLower = c := by
  have hrange : ¬(c.val ≥ 'A'.val ∧ c.val ≤ 'Z'.val) := of_decide_eq_false h
  exact dif_neg hrange

/-- A code point outside the capitals belongs to no capital. -/
theorem isUpper_eq_false {c : Char} (h : c.toNat < 65 ∨ 90 < c.toNat) : c.isUpper = false := by
  rw [Bool.eq_false_iff]
  intro hupper
  have hrange := (isUpper_iff c).mp hupper
  omega

/-- The ASCII mapping leaves no capital. -/
theorem isUpper_toLower (c : Char) : c.toLower.isUpper = false := by
  cases hupper : c.isUpper with
  | false => rw [toLower_of_not_isUpper hupper, hupper]
  | true =>
    have hall : ∀ n < 91, 65 ≤ n → (Char.ofNat n).toLower.isUpper = false := by decide
    obtain ⟨hlow, hhigh⟩ := (isUpper_iff c).mp hupper
    have hc := hall c.toNat (by omega) hlow
    rwa [Char.ofNat_toNat] at hc

/-- The character of a code point has this code point, or it stands for none. -/
theorem toNat_ofNat (n : Nat) : (Char.ofNat n).toNat = n ∨ (Char.ofNat n).toNat = 0 := by
  by_cases hvalid : n.isValidChar
  · have hchar : Char.ofNat n = Char.ofNatAux n hvalid := dif_pos hvalid
    exact Or.inl (hchar ▸ rfl)
  · have hchar : Char.ofNat n = '\x00' := dif_neg hvalid
    exact Or.inr (hchar ▸ rfl)

/-- The lower-case form of a character has no capitals. -/
theorem isUpper_of_mem_lowerChar {c d : Char} (h : d ∈ lowerChar c) : d.isUpper = false := by
  -- no run beyond ASCII is moved onto the capitals
  have hruns : ∀ run ∈ lowerRuns, (run.last : Int) + run.shift < 65 ∨
      90 < (run.first : Int) + run.shift := by
    decide +kernel
  unfold lowerChar at h
  split at h
  · rw [List.mem_singleton.mp h]
    exact isUpper_toLower c
  · next hascii =>
    split at h
    · simp only [List.mem_cons, List.not_mem_nil, or_false] at h
      rcases h with rfl | rfl <;> decide
    · split at h
      · next run hfind =>
        rw [List.mem_singleton.mp h]
        have hhas := List.find?_some hfind
        simp only [LowerRun.has, Bool.and_eq_true, decide_eq_true_eq] at hhas
        have hrun := hruns run (List.mem_of_find?_eq_some hfind)
        apply isUpper_eq_false
        rcases toNat_ofNat (c.toNat + run.shift).toNat with hn | hn <;> omega
      · rw [List.mem_singleton.mp h]
        exact isUpper_eq_false (by omega)

/-- The lower-case form of a text has no capitals. -/
theorem isUpper_of_mem_lowercaseAfter {text : List Char} :
    ∀ {before : List Char} {d : Char}, d ∈ lowercaseAfter before text → d.isUpper = false := by
  induction text with
  | nil =>
    intro before d hd
    cases hd
  | cons c rest ih =>
    intro before d hd
    rw [lowercaseAfter] at hd
    rcases List.mem_append.mp hd with hd | hd
    · split at hd
      · rw [List.mem_singleton.mp hd]
        split <;> decide
      · exact isUpper_of_mem_lowerChar hd
    · exact ih hd

/-- The ASCII mapping leaves a lower-case form as it is. -/
theorem lowerAscii_lowercase (text : List Char) : lowerAscii (lowercase text) = lowercase text := by
  have hlow : ∀ c ∈ lowercase text, c.toLower = c := fun c hc =>
    toLower_of_not_isUpper (isUpper_of_mem_lowercaseAfter hc)
  rw [lowerAscii, List.map_congr_left hlow, List.map_id']

end IssueSearch.Text
