import IssueSearch.Text.Integer

/-!
# JSON values

The values that records are written as and read from.  Members of an object
keep their order.  A whole number that fits into 64 bits is an `int`; every
other number keeps its written form.

* `Json.member?`: a member of an object by name;
* `Json.string?`, `Json.bool?`, `Json.strings?`, `Json.nat?`, `Json.int64?`,
  `Json.uint32?`: values of one shape;
* `Json.ofMembers`: members that are left out when absent.
-/

namespace IssueSearch

/-- A JSON value. -/
inductive Json where
  | null
  | bool (value : Bool)
  | int (value : Int)
  /-- A number with a fraction or an exponent, or out of range, as written. -/
  | real (text : String)
  | string (value : String)
  | array (items : List Json)
  | object (members : List (String × Json))
  deriving Repr, Inhabited

namespace Json

/-- The value of the first member with a name. -/
def lookup (name : String) (members : List (String × Json)) : Option Json :=
  members.lookup name

/-- The member of an object with a name. -/
def member? (name : String) : Json → Option Json
  | object members => lookup name members
  | _ => none

/-- The text of a string. -/
def string? : Json → Option String
  | string value => some value
  | _ => none

/-- The value of a boolean. -/
def bool? : Json → Option Bool
  | bool value => some value
  | _ => none

/-- A whole number that is not negative. -/
def nat? : Json → Option Nat
  | int value => if 0 ≤ value then some value.toNat else none
  | _ => none

/-- A whole number that fits into 64 bits with a sign. -/
def int64? : Json → Option Int64
  | int value => Text.fitInt64? value
  | _ => none

/-- A whole number that fits into 32 bits without a sign. -/
def uint32? : Json → Option UInt32
  | int value => Text.fitUInt32? value
  | _ => none

/-- An array of which every item is read. -/
def list? {α : Type} (read : Json → Option α) : Json → Option (List α)
  | array items => items.mapM read
  | _ => none

/-- An array of strings. -/
def strings? : Json → Option (List String) :=
  list? string?

/-- The value with one of the names, in a list of values with names. -/
def named? {α : Type} (values : List α) (name : α → String) : Json → Option α
  | string text => values.find? fun value => name value == text
  | object [(text, null)] => values.find? fun value => name value == text
  | _ => none

/-! ## Writing -/

/-- An array of strings. -/
def strings (values : List String) : Json :=
  array (values.map string)

/-- An integer of 64 bits with a sign. -/
def ofInt64 (value : Int64) : Json :=
  int value.toInt

/-- An integer of 32 bits without a sign. -/
def ofUInt32 (value : UInt32) : Json :=
  int value.toNat

/-- An object of members of which some are left out. -/
def ofMembers (members : List (String × Option Json)) : Json :=
  object (members.filterMap fun (name, value) => value.map fun json => (name, json))

/-! ## Laws -/

/-- A string reads as its text. -/
theorem string?_string (s : String) : string? (string s) = some s := rfl

/-- A natural number reads back. -/
theorem nat?_int (n : Nat) : nat? (int n) = some n := by
  simp [nat?]

/-- An integer of 64 bits reads back. -/
theorem int64?_ofInt64 (value : Int64) : int64? (ofInt64 value) = some value :=
  Text.fitInt64?_toInt value

/-- An integer of 32 bits reads back. -/
theorem uint32?_ofUInt32 (value : UInt32) : uint32? (ofUInt32 value) = some value :=
  Text.fitUInt32?_toNat value

/-- An array of strings reads back. -/
theorem strings?_strings (values : List String) : strings? (strings values) = some values := by
  simp only [strings?, strings, list?]
  induction values with
  | nil => rfl
  | cons s rest ih => simp [List.mapM_cons, string?, ih]

end Json

end IssueSearch
