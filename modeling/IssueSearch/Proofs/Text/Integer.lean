import IssueSearch.Text.Integer

/-!
# Written integers read back

* `digitsValue_toDigits`, `readDigits?_toDigits`: the digits of a number;
* `IsDigits`, `Denotes`, `readInteger?_eq_some_iff`: the texts that are read as integers;
* `readInteger?_writeInteger`: every integer is read back from its written form;
* `isNegativeInteger_iff`: the texts that are a minus before digits;
* `toInt_of_fitInt64?`, `fitInt64?_eq_none_iff`: what fits into 64 bits is not changed;
* `readInt64?_eq_some_iff`: the texts that are read as integers of 64 bits;
* `mem_writeInteger`: an integer is written with digits and a minus.
-/

namespace IssueSearch.Text

/-- A row of digits denotes what the library reads from it. -/
theorem digitsValue_eq_ofDigitChars (digits : List Char) :
    digitsValue digits = Nat.ofDigitChars 10 digits 0 := by
  simp only [digitsValue, Nat.ofDigitChars, Nat.mul_comm]

/-- The digits of a number denote it. -/
theorem digitsValue_toDigits (n : Nat) : digitsValue (Nat.toDigits 10 n) = n := by
  rw [digitsValue_eq_ofDigitChars, Nat.ofDigitChars_ten_toDigits]

/-- A number is written with digits. -/
theorem all_isDigit_toDigits (n : Nat) : ∀ c ∈ Nat.toDigits 10 n, c.isDigit = true :=
  fun _ hc => Nat.isDigit_of_mem_toDigits (by omega) (by omega) hc

/-- The digits of a number are read as the number. -/
theorem readDigits?_toDigits (n : Nat) : readDigits? (Nat.toDigits 10 n) = some n := by
  have hall : (Nat.toDigits 10 n).all Char.isDigit = true :=
    List.all_eq_true.mpr (all_isDigit_toDigits n)
  have hne : (Nat.toDigits 10 n).isEmpty = false := by simp [Nat.toDigits_ne_nil]
  rw [readDigits?, hall, hne, digitsValue_toDigits]
  rfl

/-- A row of digits has no sign. -/
theorem readInteger?_of_digits {digits : List Char} (h : ∀ c ∈ digits, c.isDigit = true) :
    readInteger? digits = (readDigits? digits).map Int.ofNat := by
  unfold readInteger?
  split
  · exact absurd (h '-' (by simp)) (by decide)
  · exact absurd (h '+' (by simp)) (by decide)
  · cases readDigits? digits <;> rfl

/-! ## What a text denotes -/

/-- One or more ASCII digits. -/
def IsDigits (text : List Char) : Prop :=
  text ≠ [] ∧ ∀ c ∈ text, c.isDigit = true

instance (text : List Char) : Decidable (IsDigits text) :=
  inferInstanceAs (Decidable (_ ∧ _))

/-- The integer that a text denotes: digits, with as many zeros in front as one likes, behind
one sign or none. -/
inductive Denotes : List Char → Int → Prop where
  | unsigned {digits : List Char} (h : IsDigits digits) :
      Denotes digits (Nat.ofDigitChars 10 digits 0)
  | plus {digits : List Char} (h : IsDigits digits) :
      Denotes ('+' :: digits) (Nat.ofDigitChars 10 digits 0)
  | minus {digits : List Char} (h : IsDigits digits) :
      Denotes ('-' :: digits) (-(Nat.ofDigitChars 10 digits 0 : Int))

theorem readDigits?_eq_some_iff {text : List Char} {n : Nat} :
    readDigits? text = some n ↔ IsDigits text ∧ Nat.ofDigitChars 10 text 0 = n := by
  rw [readDigits?, digitsValue_eq_ofDigitChars]
  simp [IsDigits]

/-- The number that digits denote, as an integer. -/
theorem cast_readDigits? (digits : List Char) :
    (do let n ← readDigits? digits; pure (n : Int)) = (readDigits? digits).map Int.ofNat := by
  cases readDigits? digits <;> rfl

/-- A text is read as the integer that it denotes. -/
theorem readInteger?_eq_some_iff {text : List Char} {n : Int} :
    readInteger? text = some n ↔ Denotes text n := by
  constructor
  · intro h
    unfold readInteger? at h
    split at h <;> rw [cast_readDigits?, Option.map_map, Option.map_eq_some_iff] at h <;>
      obtain ⟨k, hread, rfl⟩ := h <;> obtain ⟨hdigits, rfl⟩ := readDigits?_eq_some_iff.mp hread
    · exact .minus hdigits
    · exact .plus hdigits
    · exact .unsigned hdigits
  · intro h
    cases h with
    | unsigned h =>
      rw [readInteger?_of_digits h.2, readDigits?_eq_some_iff.mpr ⟨h, rfl⟩]
      rfl
    | plus h => rw [readInteger?, readDigits?_eq_some_iff.mpr ⟨h, rfl⟩]; rfl
    | minus h => rw [readInteger?, readDigits?_eq_some_iff.mpr ⟨h, rfl⟩]; rfl

/-- A text denotes one integer at most. -/
theorem Denotes.unique {text : List Char} {m n : Int} (hm : Denotes text m)
    (hn : Denotes text n) : m = n := by
  rw [← readInteger?_eq_some_iff] at hm hn
  exact Option.some.inj (hm.symm.trans hn)

/-- A text denotes a negative integer if it is a minus and digits that are not all zero. -/
theorem exists_denotes_neg_iff {text : List Char} :
    (∃ n < 0, Denotes text n) ↔
      ∃ digits, text = '-' :: digits ∧ IsDigits digits ∧ Nat.ofDigitChars 10 digits 0 ≠ 0 := by
  constructor
  · rintro ⟨n, hn, hdenotes⟩
    cases hdenotes with
    | unsigned h => omega
    | plus h => omega
    | @minus digits h => exact ⟨digits, rfl, h, by omega⟩
  · rintro ⟨digits, rfl, hdigits, hne⟩
    exact ⟨_, by omega, .minus hdigits⟩

/-- A minus before digits denotes an integer that is not above zero. -/
theorem isNegativeInteger_iff {text : List Char} :
    isNegativeInteger text = true ↔ ∃ digits, text = '-' :: digits ∧ IsDigits digits := by
  unfold isNegativeInteger
  split
  · simp [IsDigits]
  · next hother => exact iff_of_false Bool.noConfusion fun ⟨digits, heq, _⟩ => hother digits heq

/-! ## Written integers -/

/-- The written form of an integer is read as the integer. -/
theorem readInteger?_writeInteger (n : Int) : readInteger? (writeInteger n) = some n := by
  unfold writeInteger
  split
  · next hneg =>
    have hread : readInteger? ('-' :: Nat.toDigits 10 n.natAbs) = some (-(n.natAbs : Int)) := by
      simp [readInteger?, readDigits?_toDigits]
    rw [hread, show -(n.natAbs : Int) = n by omega]
  · next hpos =>
    rw [readInteger?_of_digits (all_isDigit_toDigits _), readDigits?_toDigits]
    show some (n.natAbs : Int) = some n
    rw [show (n.natAbs : Int) = n by omega]

/-- An integer is written with digits and a minus. -/
theorem mem_writeInteger {c : Char} {n : Int} (h : c ∈ writeInteger n) :
    c = '-' ∨ c.isDigit = true := by
  unfold writeInteger at h
  split at h
  · rcases List.mem_cons.mp h with h | h
    · exact Or.inl h
    · exact Or.inr (all_isDigit_toDigits _ c h)
  · exact Or.inr (all_isDigit_toDigits _ c h)

/-- An integer that fits is the one in 64 bits. -/
theorem toInt_of_fitInt64? {n : Int} {value : Int64} (h : fitInt64? n = some value) :
    value.toInt = n := by
  unfold fitInt64? at h
  split at h
  · next hrange =>
    obtain ⟨hlow, hhigh⟩ := hrange
    rw [Int64.toInt_minValue] at hlow
    rw [Int64.toInt_maxValue] at hhigh
    cases h
    exact Int64.toInt_ofInt_of_le hlow (by omega)
  · cases h

/-- What does not fit is below the least integer of 64 bits or above the greatest. -/
theorem fitInt64?_eq_none_iff {n : Int} :
    fitInt64? n = none ↔ n < -9223372036854775808 ∨ 9223372036854775807 < n := by
  rw [fitInt64?, Int64.toInt_minValue, Int64.toInt_maxValue, ite_eq_right_iff]
  simp only [reduceCtorEq, imp_false]
  omega

/-- A text is read in 64 bits as the integer that it denotes, if that fits. -/
theorem readInt64?_eq_some_iff {text : List Char} {n : Int64} :
    readInt64? text = some n ↔ Denotes text n.toInt := by
  rw [readInt64?, Option.bind_eq_some_iff]
  constructor
  · rintro ⟨k, hread, hfit⟩
    rw [toInt_of_fitInt64? hfit]
    exact readInteger?_eq_some_iff.mp hread
  · intro hdenotes
    exact ⟨n.toInt, readInteger?_eq_some_iff.mpr hdenotes, fitInt64?_toInt n⟩

/-- The written form of an integer of 64 bits is read as the integer. -/
theorem readInt64?_writeInteger (n : Int64) : readInt64? (writeInteger n.toInt) = some n := by
  have hdenotes : Denotes (writeInteger n.toInt) n.toInt :=
    readInteger?_eq_some_iff.mp (readInteger?_writeInteger n.toInt)
  exact readInt64?_eq_some_iff.mpr hdenotes

/-- The written form of an integer is not empty. -/
theorem writeInteger_ne_nil (n : Int) : writeInteger n ≠ [] := by
  unfold writeInteger
  split
  · exact List.cons_ne_nil _ _
  · exact Nat.toDigits_ne_nil

end IssueSearch.Text
