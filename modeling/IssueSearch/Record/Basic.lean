import IssueSearch.Json

/-!
# Reading records

A record is read from an object, by the names of its slots, or from an array, by
their positions.  Members of an object that are no slot are ignored.

* `Slot`: the names of a slot and whether a short array may leave it out;
* `Record.ofJson?`: the values of the slots that are present;
* `Record.trim`: for a reader that passes over further items of an array;
* `Record.required?`, `Record.optional?`, `Record.defaulted?`: one slot.
-/

namespace IssueSearch

/-- A slot of a record. -/
structure Slot where
  name : String
  /-- A second name under which the slot may be given. -/
  spelling : Option String := none
  /-- Whether an array may end before the slot. -/
  mayEnd : Bool := false

namespace Slot

/-- A slot that an array has to hold. -/
def always (name : String) : Slot :=
  { name }

/-- A slot that an array may leave out at its end. -/
def trailing (name : String) : Slot :=
  { name, mayEnd := true }

/-- The value of the slot in an object; no value is chosen when both names are
given. -/
def inObject? (slot : Slot) (members : List (String × Json)) : Option (Option Json) :=
  let first := Json.lookup slot.name members
  match slot.spelling.bind fun name => Json.lookup name members with
  | none => some first
  | some second => if first.isSome then none else some (some second)

end Slot

/-- The values of the slots of a record that are present, by name. -/
structure Record where
  members : List (String × Json)

namespace Record

/-- The slots of a record that is given as an object or an array. -/
def ofJson? (slots : List Slot) : Json → Option Record
  | .object members => do
      let values ← slots.mapM fun slot => slot.inObject? members
      some ⟨(slots.zip values).filterMap fun (slot, value) =>
        value.map fun json => (slot.name, json)⟩
  | .array items =>
      if items.length ≤ slots.length && (slots.drop items.length).all (·.mayEnd) then
        some ⟨(slots.map (·.name)).zip items⟩
      else none
  | _ => none

/-- An array without the items after the last slot of a record. -/
def trim (slots : List Slot) : Json → Json
  | .array items => .array (items.take slots.length)
  | json => json

variable {α : Type}

/-- A slot that has to be present. -/
def required? (record : Record) (name : String) (read : Json → Option α) : Option α :=
  (Json.lookup name record.members).bind read

/-- A slot that may be absent or null. -/
def optional? (record : Record) (name : String) (read : Json → Option α) : Option (Option α) :=
  match Json.lookup name record.members with
  | none => some none
  | some .null => some none
  | some json => (read json).map some

/-- A slot that has a value when absent. -/
def defaulted? (record : Record) (name : String) (absent : α) (read : Json → Option α) :
    Option α :=
  match Json.lookup name record.members with
  | none => some absent
  | some json => read json

end Record

end IssueSearch
