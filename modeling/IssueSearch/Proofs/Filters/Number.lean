import IssueSearch.Proofs.Text.Integer
import IssueSearch.Validation

/-!
# The numbers that a filter accepts

A value of a field of numbers is an integer, written with digits behind one sign or none.
It is accepted from zero to the greatest integer of 64 bits.  Every negative integer is
rejected as such, however small it is, and every other value as no number.

* `nonNegative_eq`: the two readings of a value as one integer;
* `nonNegative_cases`: the three outcomes, each with what the value denotes;
* `nonNegative_eq_ok_iff`: the numbers that a field accepts;
* `nonNegative_outcome`: the outcome of every value, told by the characters of the value.
-/

namespace IssueSearch

section

variable (field : Field) (value : List Char)

/-- Reading 64 bits first, and what does not fit by its minus and digits, decides as the one
integer does that the value denotes. -/
theorem nonNegative_eq :
    field.nonNegative value =
      match Text.readInteger? value with
      | some n =>
          if n < 0 then .error (.negativeNumberRejected field.name (String.ofList value))
          else match Text.fitInt64? n with
            | some n => .ok n
            | none => .error (.invalidNumber field.name (String.ofList value))
      | none => .error (.invalidNumber field.name (String.ofList value)) := by
  unfold Field.nonNegative Text.readInt64?
  cases hread : Text.readInteger? value with
  | none =>
    have hminus : Text.isNegativeInteger value = false := by
      rw [Bool.eq_false_iff]
      intro hminus
      obtain ⟨digits, rfl, hdigits⟩ := Text.isNegativeInteger_iff.mp hminus
      rw [Text.readInteger?_eq_some_iff.mpr (.minus hdigits)] at hread
      cases hread
    simp only [Option.bind_none, hminus, Bool.false_eq_true, if_false]
  | some n =>
    have hdenotes := Text.readInteger?_eq_some_iff.mp hread
    rw [Option.bind_some]
    cases hfit : Text.fitInt64? n with
    | some k =>
      have hsign : k < 0 ↔ n < 0 := by
        rw [Int64.lt_iff_toInt_lt, Int64.toInt_zero, Text.toInt_of_fitInt64? hfit]
      simp only [hsign, hfit]
    | none =>
      have hrange := Text.fitInt64?_eq_none_iff.mp hfit
      -- zero fits, so that a minus before digits stands for a negative integer here
      have hsign : Text.isNegativeInteger value = true ↔ n < 0 := by
        rw [Text.isNegativeInteger_iff]
        constructor
        · rintro ⟨digits, rfl, hdigits⟩
          have hvalue := hdenotes.unique (.minus hdigits)
          omega
        · intro hneg
          obtain ⟨digits, heq, hdigits, _⟩ := Text.exists_denotes_neg_iff.mp ⟨n, hneg, hdenotes⟩
          exact ⟨digits, heq, hdigits⟩
      simp only [hsign, hfit]

/-- A value denotes an integer that is accepted, a negative one, or none that fits. -/
theorem nonNegative_cases :
    (∃ n : Int64, Text.Denotes value n.toInt ∧ 0 ≤ n.toInt ∧ field.nonNegative value = .ok n) ∨
    ((∃ n < 0, Text.Denotes value n) ∧ field.nonNegative value =
      .error (.negativeNumberRejected field.name (String.ofList value))) ∨
    ((∀ n, Text.Denotes value n → 9223372036854775807 < n) ∧ field.nonNegative value =
      .error (.invalidNumber field.name (String.ofList value))) := by
  rw [nonNegative_eq]
  cases hread : Text.readInteger? value with
  | none =>
    refine Or.inr (Or.inr ⟨fun n hn => ?_, rfl⟩)
    rw [Text.readInteger?_eq_some_iff.mpr hn] at hread
    cases hread
  | some n =>
    have hdenotes := Text.readInteger?_eq_some_iff.mp hread
    by_cases hneg : n < 0
    · exact Or.inr (Or.inl ⟨⟨n, hneg, hdenotes⟩, by simp only [if_pos hneg]⟩)
    · simp only [if_neg hneg]
      cases hfit : Text.fitInt64? n with
      | some k =>
        obtain rfl := Text.toInt_of_fitInt64? hfit
        exact Or.inl ⟨k, hdenotes, Int.not_lt.mp hneg, rfl⟩
      | none =>
        refine Or.inr (Or.inr ⟨fun m hm => ?_, rfl⟩)
        obtain rfl := hm.unique hdenotes
        have hrange := Text.fitInt64?_eq_none_iff.mp hfit
        omega

/-- A field rejects as negative what denotes a negative integer. -/
theorem nonNegative_eq_negative_iff :
    field.nonNegative value =
        .error (.negativeNumberRejected field.name (String.ofList value)) ↔
      ∃ n < 0, Text.Denotes value n := by
  obtain ⟨k, hk, hsign, hvalue⟩ | ⟨hneg, hvalue⟩ | ⟨hlarge, hvalue⟩ := nonNegative_cases field value
  · refine iff_of_false (by simp [hvalue]) fun ⟨n, hn, hdenotes⟩ => ?_
    have heq := hk.unique hdenotes
    omega
  · exact iff_of_true hvalue hneg
  · refine iff_of_false (by simp [hvalue]) fun ⟨n, hn, hdenotes⟩ => ?_
    have hbound := hlarge n hdenotes
    omega

/-- A field rejects as no number what denotes no integer up to the greatest of 64 bits. -/
theorem nonNegative_eq_invalid_iff :
    field.nonNegative value = .error (.invalidNumber field.name (String.ofList value)) ↔
      ∀ n, Text.Denotes value n → 9223372036854775807 < n := by
  obtain ⟨k, hk, _, hvalue⟩ | ⟨⟨k, hneg, hk⟩, hvalue⟩ | ⟨hlarge, hvalue⟩ :=
    nonNegative_cases field value
  · refine iff_of_false (by simp [hvalue]) fun hlarge => ?_
    have hupper := k.toInt_lt
    have hbound := hlarge _ hk
    omega
  · refine iff_of_false (by simp [hvalue]) fun hlarge => ?_
    have hbound := hlarge k hk
    omega
  · exact iff_of_true hvalue hlarge

end

/-- A field accepts the integers of 64 bits that are not negative. -/
theorem nonNegative_eq_ok_iff {field : Field} {value : List Char} {n : Int64} :
    field.nonNegative value = .ok n ↔
      Text.readInteger? value = some n.toInt ∧ 0 ≤ n.toInt := by
  rw [Text.readInteger?_eq_some_iff]
  constructor
  · intro h
    obtain ⟨k, hdenotes, hsign, hvalue⟩ | ⟨_, hvalue⟩ | ⟨_, hvalue⟩ :=
      nonNegative_cases field value <;> rw [hvalue] at h <;> cases h
    exact ⟨hdenotes, hsign⟩
  · rintro ⟨hdenotes, hsign⟩
    obtain ⟨k, hk, _, hvalue⟩ | ⟨⟨k, hneg, hk⟩, _⟩ | ⟨hlarge, _⟩ := nonNegative_cases field value
    · rw [hvalue, Int64.toInt_inj.mp (hk.unique hdenotes)]
    · have heq := hk.unique hdenotes
      omega
    · have hupper := n.toInt_lt
      have hbound := hlarge _ hdenotes
      omega

/-- A value is accepted if it is one or more digits behind one sign or none, with the integer
that it denotes, from zero to the greatest of 64 bits.  It is rejected as negative if it is a
minus and digits that are not all zero, whatever their number.  Every other value is rejected
as no number, an integer that is too great among them. -/
theorem nonNegative_outcome (field : Field) (value : String) :
    (∀ n : Int, (∃ k : Int64, field.nonNegative value.toList = .ok k ∧ k.toInt = n) ↔
      Text.Denotes value.toList n ∧ 0 ≤ n ∧ n ≤ 9223372036854775807) ∧
    (field.nonNegative value.toList = .error (.negativeNumberRejected field.name value) ↔
      ∃ digits, value.toList = '-' :: digits ∧ Text.IsDigits digits ∧
        Nat.ofDigitChars 10 digits 0 ≠ 0) ∧
    (field.nonNegative value.toList = .error (.invalidNumber field.name value) ↔
      ∀ n, Text.Denotes value.toList n → 9223372036854775807 < n) ∧
    ((∃ k, field.nonNegative value.toList = .ok k) ∨
      field.nonNegative value.toList = .error (.negativeNumberRejected field.name value) ∨
      field.nonNegative value.toList = .error (.invalidNumber field.name value)) := by
  have hnegative := nonNegative_eq_negative_iff field value.toList
  have hinvalid := nonNegative_eq_invalid_iff field value.toList
  have hcases := nonNegative_cases field value.toList
  rw [String.ofList_toList] at hnegative hinvalid hcases
  refine ⟨fun n => ⟨?_, ?_⟩, hnegative.trans Text.exists_denotes_neg_iff, hinvalid, ?_⟩
  · rintro ⟨k, hk, rfl⟩
    obtain ⟨hread, hsign⟩ := nonNegative_eq_ok_iff.mp hk
    have hupper := k.toInt_lt
    exact ⟨Text.readInteger?_eq_some_iff.mp hread, hsign, by omega⟩
  · rintro ⟨hdenotes, hsign, hupper⟩
    have hk : (Int64.ofInt n).toInt = n := Int64.toInt_ofInt_of_le (by omega) (by omega)
    refine ⟨Int64.ofInt n, nonNegative_eq_ok_iff.mpr ?_, hk⟩
    rw [hk]
    exact ⟨Text.readInteger?_eq_some_iff.mpr hdenotes, hsign⟩
  · obtain ⟨k, _, _, hvalue⟩ | ⟨_, hvalue⟩ | ⟨_, hvalue⟩ := hcases
    · exact Or.inl ⟨k, hvalue⟩
    · exact Or.inr (Or.inl hvalue)
    · exact Or.inr (Or.inr hvalue)

-- A minus before zeros is accepted; the ends of 64 bits; a sign alone.
example (field : Field) :
    field.nonNegative "-00".toList = .ok 0 ∧
    field.nonNegative "+09223372036854775807".toList = .ok Int64.maxValue ∧
    field.nonNegative "9223372036854775808".toList =
      .error (.invalidNumber field.name "9223372036854775808") ∧
    field.nonNegative "-9223372036854775809".toList =
      .error (.negativeNumberRejected field.name "-9223372036854775809") ∧
    field.nonNegative "-".toList = .error (.invalidNumber field.name "-") := by
  refine ⟨rfl, rfl, rfl, rfl, rfl⟩

end IssueSearch
