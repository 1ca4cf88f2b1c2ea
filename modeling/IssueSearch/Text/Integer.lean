/-!
# Written integers

An integer is written as an optional sign and one or more ASCII digits, with any
number of leading zeros.

* `digitsValue`: the number that a row of digits denotes;
* `readDigits?`, `readInteger?`: a text that is nothing but a number;
* `isNegativeInteger`: a minus before digits, however many they are;
* `writeInteger`: an integer without sign or zeros in front that are not needed;
* `fitInt64?`, `fitUInt32?`: integers that fit into a number of bits;
* `readInt64?`: a text that is nothing but an integer of 64 bits.
-/

namespace IssueSearch.Text

/-- The number that a row of digits denotes. -/
def digitsValue (digits : List Char) : Nat :=
  digits.foldl (fun value digit => value * 10 + (digit.toNat - '0'.toNat)) 0

/-- The number that a text denotes when it is one or more digits. -/
def readDigits? (text : List Char) : Option Nat :=
  if !text.isEmpty && text.all Char.isDigit then some (digitsValue text) else none

/-- The integer that a text denotes when it is an optional sign and digits. -/
def readInteger? : List Char → Option Int
  | '-' :: digits => (readDigits? digits).map fun n => -(n : Int)
  | '+' :: digits => (readDigits? digits).map fun n => (n : Int)
  | digits => (readDigits? digits).map fun n => (n : Int)

/-- Whether a text is a minus before one or more digits, of which there may be too many for 64
bits. -/
def isNegativeInteger : List Char → Bool
  | '-' :: digits => !digits.isEmpty && digits.all Char.isDigit
  | _ => false

/-- The digits of an integer, after a minus if it is negative. -/
def writeInteger (n : Int) : List Char :=
  if n < 0 then '-' :: Nat.toDigits 10 n.natAbs else Nat.toDigits 10 n.natAbs

/-- The integer in 64 bits with a sign, if it fits. -/
def fitInt64? (n : Int) : Option Int64 :=
  if Int64.minValue.toInt ≤ n ∧ n ≤ Int64.maxValue.toInt then some (Int64.ofInt n) else none

/-- The integer in 32 bits without a sign, if it fits. -/
def fitUInt32? (n : Int) : Option UInt32 :=
  if 0 ≤ n ∧ n < UInt32.size then some (UInt32.ofNat n.toNat) else none

/-- The integer of 64 bits that a text denotes. -/
def readInt64? (text : List Char) : Option Int64 :=
  (readInteger? text).bind fitInt64?

/-! ## Laws -/

/-- An integer of 64 bits fits. -/
theorem fitInt64?_toInt (value : Int64) : fitInt64? value.toInt = some value := by
  have lower := Int64.minValue_le_toInt value
  have upper := Int64.toInt_le value
  rw [fitInt64?, if_pos ⟨lower, upper⟩, Int64.ofInt_toInt]

/-- An integer of 32 bits fits. -/
theorem fitUInt32?_toNat (value : UInt32) : fitUInt32? value.toNat = some value := by
  have upper := value.toNat_lt_size
  rw [fitUInt32?, if_pos ⟨by omega, by omega⟩]
  simp

end IssueSearch.Text
