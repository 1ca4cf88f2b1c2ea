/-!
# Byte offsets

Places in a text are counted in bytes of its UTF-8 form.  A place is a boundary
when it falls between two characters.

* `byteLength`: the size of a text in bytes, which is that of the string
  (`byteLength_eq_utf8ByteSize`);
* `floorBoundary`: the last boundary not after a byte offset;
* `takeBytes`, `dropBytes`: the characters before and after an offset, which
  share out the text (`takeBytes_append_dropBytes`);
* `charOffsets`: the characters with their places;
* `stepBack?`, `clamp?`, `slice?`: places and slices by bytes, with no value where a
  step or a slice is out of bounds.
-/

namespace IssueSearch.Text

/-- The number of bytes of a text in UTF-8. -/
def byteLength : List Char → Nat
  | [] => 0
  | c :: rest => c.utf8Size + byteLength rest

/-- The last boundary of the text that is not after `offset`. -/
def floorBoundary (offset : Nat) : List Char → Nat
  | [] => 0
  | c :: rest =>
      if c.utf8Size ≤ offset then c.utf8Size + floorBoundary (offset - c.utf8Size) rest else 0

/-- The characters that end at or before `offset`. -/
def takeBytes (offset : Nat) : List Char → List Char
  | [] => []
  | c :: rest =>
      if c.utf8Size ≤ offset then c :: takeBytes (offset - c.utf8Size) rest else []

/-- The characters from the last boundary not after `offset`. -/
def dropBytes (offset : Nat) : List Char → List Char
  | [] => []
  | c :: rest =>
      if c.utf8Size ≤ offset then dropBytes (offset - c.utf8Size) rest else c :: rest

/-- All boundaries of a text that starts at byte `start`, both ends included. -/
def boundaries (start : Nat) : List Char → List Nat
  | [] => [start]
  | c :: rest => start :: boundaries (start + c.utf8Size) rest

/-- The characters of a text that starts at a byte offset, each with its own offset. -/
def charOffsets (start : Nat) : List Char → List (Nat × Char)
  | [] => []
  | c :: rest => (start, c) :: charOffsets (start + c.utf8Size) rest

/-! ## Places and slices by bytes -/

/-- The first boundary that is met on the way from an offset to the start of a text, one byte at
a time.  There is no value if the way goes on below zero. -/
def stepBack? (text : String) : Nat → Option Nat
  | 0 => if String.Pos.Raw.IsValid text ⟨0⟩ then some 0 else none
  | offset + 1 =>
      if String.Pos.Raw.IsValid text ⟨offset + 1⟩ then some (offset + 1)
      else stepBack? text offset

/-- The boundary that is reached from an offset, or from the end if the offset is behind it.  The
cursor and both ends of a row of marks are moved back in this way. -/
def clamp? (text : String) (offset : Nat) : Option Nat :=
  stepBack? text (min offset text.utf8ByteSize)

/-- The text between two offsets.  There is no value if they are not in order or if one of them
is no boundary. -/
def slice? (text : String) (first last : Nat) : Option String :=
  if first ≤ last ∧ String.Pos.Raw.IsValid text ⟨first⟩ ∧ String.Pos.Raw.IsValid text ⟨last⟩ then
    some (String.Pos.Raw.extract text ⟨first⟩ ⟨last⟩)
  else none

/-! ## Laws -/

/-- The size of two texts in a row. -/
theorem byteLength_append (a b : List Char) :
    byteLength (a ++ b) = byteLength a + byteLength b := by
  induction a with
  | nil => simp [byteLength]
  | cons c rest ih => simp [byteLength, ih, Nat.add_assoc]

/-- The size is that of the text as a string. -/
theorem byteLength_eq_utf8ByteSize (text : List Char) :
    byteLength text = (String.ofList text).utf8ByteSize := by
  induction text with
  | nil => simp [byteLength]
  | cons c rest ih =>
    have parts : String.ofList (c :: rest) = String.singleton c ++ String.ofList rest := by
      rw [String.singleton_eq_ofList, ← String.ofList_append]
      rfl
    rw [byteLength, ih, parts, String.utf8ByteSize_append, String.utf8ByteSize_singleton]

/-- The parts before and after an offset are the whole text. -/
theorem takeBytes_append_dropBytes (offset : Nat) (text : List Char) :
    takeBytes offset text ++ dropBytes offset text = text := by
  induction text generalizing offset with
  | nil => rfl
  | cons c rest ih =>
    by_cases h : c.utf8Size ≤ offset <;> simp [takeBytes, dropBytes, h, ih]

/-- The part before an offset ends at the last boundary not after it. -/
theorem byteLength_takeBytes (offset : Nat) (text : List Char) :
    byteLength (takeBytes offset text) = floorBoundary offset text := by
  induction text generalizing offset with
  | nil => rfl
  | cons c rest ih =>
    by_cases h : c.utf8Size ≤ offset <;> simp [takeBytes, floorBoundary, byteLength, h, ih]

/-- The boundary is not after the offset. -/
theorem floorBoundary_le (offset : Nat) (text : List Char) :
    floorBoundary offset text ≤ offset := by
  induction text generalizing offset with
  | nil => simp [floorBoundary]
  | cons c rest ih =>
    by_cases h : c.utf8Size ≤ offset
    · have := ih (offset - c.utf8Size)
      simp only [floorBoundary, h, ↓reduceIte]
      omega
    · simp [floorBoundary, h]

end IssueSearch.Text
