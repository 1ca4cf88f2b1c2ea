import IssueSearch.Record.Basic
import Mathlib.Data.List.Basic
import Mathlib.Data.List.Forall2
import Mathlib.Data.Option.Basic

/-!
# Reading and writing records

An object is read by the names of its slots alone.  So a record that leaves absent slots out reads
back slot by slot, and members of other names make no difference, wherever they stand and whatever
they hold.

* `Json.keys`, `keys_ofMembers`, `lookup_present`: the members that are written;
* `IsPlain`, `exists_ofJson?`, `exists_ofJson?_ofMembers`: the slots that are read;
* `ReadsBack`, `ReadsBack.list`, `ReadsBack.required?`, `ReadsBack.optional?`: values that read
  back;
* `AddsMembers`, `Json.Extends`, `Json.ItemsExtend`: further members at one level, and at the
  levels below it;
* `IsUnseen`, `Json.Extends.ofJson?_eq`, `exists_ofJson?_of_addsMembers`: they make no difference.
-/

namespace IssueSearch

/-! ## Members that are written -/

namespace Json

/-- The names of the members of an object, in order. -/
def keys : Json → List String
  | object members => members.map Prod.fst
  | _ => []

/-- The members that are present. -/
def present (entries : List (String × Option Json)) : List (String × Json) :=
  entries.filterMap fun (name, value) => value.map fun json => (name, json)

section

variable {entries : List (String × Option Json)}

/-- The members that are present are written, in order. -/
theorem keys_ofMembers {holds : String → Bool}
    (h : ∀ entry ∈ entries, entry.2.isSome = holds entry.1) :
    (ofMembers entries).keys = (entries.map Prod.fst).filter holds := by
  simp only [ofMembers, keys]
  induction entries with
  | nil => rfl
  | cons entry rest ih =>
    obtain ⟨hentry, hrest⟩ := List.forall_mem_cons.mp h
    obtain ⟨name, value⟩ := entry
    rw [List.map_cons, List.filter_cons, ← hentry, List.filterMap_cons, ← ih hrest]
    cases value <;> rfl

/-- A member of another name is not found. -/
theorem lookup_present_eq_none {name : String} (h : name ∉ entries.map Prod.fst) :
    lookup name (present entries) = none := by
  rw [lookup, List.lookup_eq_none_iff]
  intro member hmem
  obtain ⟨⟨other, value⟩, hentry, hvalue⟩ := List.mem_filterMap.mp hmem
  obtain ⟨json, _, rfl⟩ := Option.map_eq_some_iff.mp hvalue
  have hne : name ≠ other := fun heq => h (heq ▸ List.mem_map_of_mem hentry)
  simpa using hne

/-- Each member is found by its name, if the names are different. -/
theorem lookup_present (hnames : (entries.map Prod.fst).Nodup) :
    ∀ entry ∈ entries, lookup entry.1 (present entries) = entry.2 := by
  induction entries with
  | nil => nofun
  | cons first rest ih =>
    obtain ⟨name, value⟩ := first
    obtain ⟨hfresh, hrest⟩ := List.nodup_cons.mp hnames
    rw [List.forall_mem_cons]
    constructor
    · cases value with
      | none => exact (show lookup name (present rest) = none from lookup_present_eq_none hfresh)
      | some json => exact List.lookup_cons_self
    · intro entry hmem
      have hother : entry.1 ∈ rest.map Prod.fst := List.mem_map_of_mem hmem
      have hne : (entry.1 == name) = false := by
        rw [beq_eq_false_iff_ne]
        exact fun heq => hfresh (heq ▸ hother)
      rw [← ih hrest entry hmem]
      cases value with
      | none => rfl
      | some json =>
        show List.lookup entry.1 ((name, json) :: present rest) = _
        rw [List.lookup_cons, hne]
        rfl

/-- Each member of a record that is written is found by its name. -/
theorem member?_ofMembers {json : Json} (hjson : json = ofMembers entries)
    (hnames : (entries.map Prod.fst).Nodup) :
    ∀ entry ∈ entries, json.member? entry.1 = entry.2 :=
  hjson ▸ lookup_present hnames

end

end Json

/-! ## Slots that are read -/

/-- The slots of a record have one name each, and all of them different ones. -/
structure IsPlain (slots : List Slot) : Prop where
  spelling : ∀ slot ∈ slots, slot.spelling = none
  nodup : (slots.map (·.name)).Nodup

/-- Items that are all read are read as a list. -/
theorem mapM_eq_some_map {α β : Type} {read : α → Option β} {f : α → β} {items : List α}
    (h : ∀ item ∈ items, read item = some (f item)) : items.mapM read = some (items.map f) := by
  induction items with
  | nil => rfl
  | cons item rest ih =>
    obtain ⟨hitem, hrest⟩ := List.forall_mem_cons.mp h
    rw [List.mapM_cons, hitem, ih hrest]
    rfl

section

variable {slots : List Slot}

/-- The record of an object holds the members that are slots. -/
theorem ofJson?_object (hplain : IsPlain slots) (members : List (String × Json)) :
    Record.ofJson? slots (.object members) = some ⟨Json.present <| slots.map fun slot =>
      (slot.name, Json.lookup slot.name members)⟩ := by
  have hvalues : slots.mapM (fun slot => slot.inObject? members) =
      some (slots.map fun slot => Json.lookup slot.name members) := by
    refine mapM_eq_some_map fun slot hmem => ?_
    simp only [Slot.inObject?, hplain.spelling slot hmem, Option.bind_none]
  have hzip : slots.zip (slots.map fun slot => Json.lookup slot.name members) =
      slots.map fun slot => (slot, Json.lookup slot.name members) := by
    have hmap := List.zip_map' (f := id)
      (g := fun slot : Slot => Json.lookup slot.name members) (l := slots)
    rwa [List.map_id] at hmap
  simp only [Record.ofJson?, hvalues, hzip, Json.present, List.filterMap_map, Option.bind_eq_bind,
    Option.bind_some]
  rfl

/-- Each slot of an object is read from the member of its name. -/
theorem exists_ofJson? (hplain : IsPlain slots) (members : List (String × Json)) :
    ∃ record, Record.ofJson? slots (.object members) = some record ∧
      ∀ slot ∈ slots, Json.lookup slot.name record.members = Json.lookup slot.name members := by
  refine ⟨_, ofJson?_object hplain members, fun slot hmem => ?_⟩
  have hnames : ((slots.map fun slot => (slot.name, Json.lookup slot.name members)).map
      Prod.fst).Nodup := by
    rw [List.map_map]
    exact hplain.nodup
  exact Json.lookup_present hnames _ (List.mem_map_of_mem hmem)

/-- A record that is written reads back slot by slot. -/
theorem exists_ofJson?_ofMembers (hplain : IsPlain slots) {entries : List (String × Option Json)}
    {json : Json} (hjson : json = .ofMembers entries)
    (hnames : entries.map Prod.fst = slots.map (·.name)) :
    ∃ record, Record.ofJson? slots json = some record ∧
      ∀ entry ∈ entries, Json.lookup entry.1 record.members = entry.2 := by
  obtain ⟨record, hrecord, hlookup⟩ := exists_ofJson? hplain (Json.present entries)
  refine ⟨record, hjson ▸ hrecord, fun entry hmem => ?_⟩
  have hslot : entry.1 ∈ slots.map (·.name) := hnames ▸ List.mem_map_of_mem hmem
  obtain ⟨slot, hslot, hname⟩ := List.mem_map.mp hslot
  rw [← hname, hlookup slot hslot, hname]
  exact Json.lookup_present (hnames ▸ hplain.nodup) entry hmem

end

/-! ## Values that are read back -/

/-- What is written reads back, and it is not written as null. -/
structure ReadsBack {α : Type} (write : α → Json) (read : Json → Option α) : Prop where
  read_write (a : α) : read (write a) = some a
  read_null : read .null = none

/-- Texts read back. -/
theorem readsBack_string : ReadsBack .string Json.string? :=
  ⟨Json.string?_string, rfl⟩

/-- Numbers that are not negative read back. -/
theorem readsBack_nat : ReadsBack (fun n : Nat => .int n) Json.nat? :=
  ⟨Json.nat?_int, rfl⟩

/-- Integers of 64 bits read back. -/
theorem readsBack_int64 : ReadsBack .ofInt64 Json.int64? :=
  ⟨Json.int64?_ofInt64, rfl⟩

/-- Integers of 32 bits read back. -/
theorem readsBack_uint32 : ReadsBack .ofUInt32 Json.uint32? :=
  ⟨Json.uint32?_ofUInt32, rfl⟩

/-- Lists of texts read back. -/
theorem readsBack_strings : ReadsBack .strings Json.strings? :=
  ⟨Json.strings?_strings, rfl⟩

/-- A step that gives a value, and what follows it. -/
theorem bind_eq_some {α β : Type} {x : Option α} {f : α → Option β} {a : α} {b : β}
    (h : x = some a) (hrest : f a = some b) : (x >>= f) = some b :=
  Option.bind_eq_some_iff.mpr ⟨a, h, hrest⟩

section

variable {α : Type} {write : α → Json} {read : Json → Option α}

/-- Values with names read back, if each is found by its name. -/
theorem readsBack_named {values : List α} {name : α → String}
    (h : ∀ a, values.find? (fun value => name value == name a) = some a) :
    ReadsBack (fun a => .string (name a)) (Json.named? values name) :=
  ⟨h, rfl⟩

namespace ReadsBack

/-- A list reads back, if its items do. -/
theorem list (h : ReadsBack write read) :
    ReadsBack (fun values => .array (values.map write)) (Json.list? read) where
  read_write values := by
    have hitems : values.mapM (read ∘ write) = some (values.map id) :=
      mapM_eq_some_map fun a _ => h.read_write a
    rw [Json.list?, List.mapM_map, hitems, List.map_id]
  read_null := rfl

variable {record : Record} {name : String}

/-- A slot that is there reads back. -/
theorem required? (h : ReadsBack write read) {a : α}
    (hlookup : Json.lookup name record.members = some (write a)) :
    record.required? name read = some a := by
  rw [Record.required?, hlookup, Option.bind_some, h.read_write]

/-- A slot that may be absent reads back. -/
theorem optional? (h : ReadsBack write read) {value : Option α}
    (hlookup : Json.lookup name record.members = value.map write) :
    record.optional? name read = some value := by
  unfold Record.optional?
  rw [hlookup]
  cases value with
  | none => rfl
  | some a =>
    have hback := h.read_write a
    have hpresent : write a ≠ .null := fun heq => by
      rw [heq, h.read_null] at hback
      cases hback
    simp [hback]

end ReadsBack

end

/-! ## Further members -/

/-- The members of an object, with further ones that are no slots of the record: at any places, as
many as there may be, and holding anything.  What the other members hold is changed as `within`
says. -/
inductive AddsMembers (slots : List Slot) (within : String → Json → Json → Prop) :
    List (String × Json) → List (String × Json) → Prop
  | nil : AddsMembers slots within [] []
  | member {name : String} {value other : Json} {members others : List (String × Json)}
      (hvalue : within name value other) (h : AddsMembers slots within members others) :
      AddsMembers slots within ((name, value) :: members) ((name, other) :: others)
  | unknown {name : String} {value : Json} {members others : List (String × Json)}
      (hname : ∀ slot ∈ slots, slot.name ≠ name) (h : AddsMembers slots within members others) :
      AddsMembers slots within members ((name, value) :: others)

/-- An object with further members that are no slots of the record. -/
inductive Json.Extends (slots : List Slot) (within : String → Json → Json → Prop) :
    Json → Json → Prop
  | object {members others : List (String × Json)} (h : AddsMembers slots within members others) :
      Extends slots within (.object members) (.object others)
  | same (json : Json) : Extends slots within json json

/-- An array with further members in its items. -/
inductive Json.ItemsExtend (each : Json → Json → Prop) : Json → Json → Prop
  | array {items others : List Json} (h : List.Forall₂ each items others) :
      ItemsExtend each (.array items) (.array others)
  | same (json : Json) : ItemsExtend each json json

section

variable {slots : List Slot} {within : String → Json → Json → Prop}
  {members others : List (String × Json)}

/-- A slot is found where it was, with the changes within it. -/
theorem AddsMembers.lookup (h : AddsMembers slots within members others) {slot : Slot}
    (hslot : slot ∈ slots) :
    Option.Rel (within slot.name) (Json.lookup slot.name members)
      (Json.lookup slot.name others) := by
  induction h with
  | nil => exact .none
  | @member name value other members others hvalue _ ih =>
    simp only [Json.lookup, List.lookup_cons] at ih ⊢
    by_cases hname : slot.name = name
    · subst hname
      simpa using Option.Rel.some hvalue
    · have hne : (slot.name == name) = false := beq_eq_false_iff_ne.mpr hname
      simpa only [hne] using ih
  | @unknown name value members others hname _ ih =>
    have hne : (slot.name == name) = false := beq_eq_false_iff_ne.mpr (hname slot hslot)
    simp only [Json.lookup, List.lookup_cons, hne] at ih ⊢
    exact ih

/-- With further members that are no slots, a slot is found as it was. -/
theorem AddsMembers.lookup_eq (h : AddsMembers slots (fun _ => Eq) members others) {slot : Slot}
    (hslot : slot ∈ slots) : Json.lookup slot.name others = Json.lookup slot.name members := by
  have hrel := h.lookup hslot
  generalize Json.lookup slot.name members = value,
    Json.lookup slot.name others = other at hrel ⊢
  cases hrel with
  | none => rfl
  | some heq => rw [heq]

/-- With further members that are no slots, the same record is read. -/
theorem Json.Extends.ofJson?_eq {known : List Slot} {json changed : Json}
    (h : Json.Extends known (fun _ => Eq) json changed) (hplain : IsPlain slots)
    (hknown : slots ⊆ known) : Record.ofJson? slots changed = Record.ofJson? slots json := by
  cases h with
  | same => rfl
  | @object members others hmembers =>
    have hlookup : (slots.map fun slot => (slot.name, Json.lookup slot.name others)) =
        slots.map fun slot => (slot.name, Json.lookup slot.name members) := by
      refine List.map_congr_left fun slot hmem => ?_
      rw [hmembers.lookup_eq (hknown hmem)]
    rw [ofJson?_object hplain, ofJson?_object hplain, hlookup]

/-- With further members that are no slots and with changes within the others, the records that
are read differ by these changes. -/
theorem exists_ofJson?_of_addsMembers (hplain : IsPlain slots)
    (h : AddsMembers slots within members others) :
    ∃ record other, Record.ofJson? slots (.object members) = some record ∧
      Record.ofJson? slots (.object others) = some other ∧
      ∀ slot ∈ slots, Option.Rel (within slot.name) (Json.lookup slot.name record.members)
        (Json.lookup slot.name other.members) := by
  obtain ⟨record, hrecord, hlookup⟩ := exists_ofJson? hplain members
  obtain ⟨other, hother, hothers⟩ := exists_ofJson? hplain others
  refine ⟨record, other, hrecord, hother, fun slot hmem => ?_⟩
  rw [hlookup slot hmem, hothers slot hmem]
  exact h.lookup hmem

end

/-- The changes make no difference to what is read. -/
def IsUnseen {α : Type} (changes : Json → Json → Prop) (read : Json → Option α) : Prop :=
  ∀ json changed, changes json changed → read changed = read json

/-- Without changes, the same is read. -/
theorem isUnseen_eq {α : Type} (read : Json → Option α) : IsUnseen Eq read := by
  rintro json _ rfl
  rfl

/-- Null has no members. -/
theorem Json.Extends.null_iff {slots : List Slot} {within : String → Json → Json → Prop}
    {json changed : Json} (h : Json.Extends slots within json changed) :
    json = .null ↔ changed = .null := by
  cases h with
  | object => simp
  | same => exact Iff.rfl

namespace IsUnseen

variable {α : Type} {changes : Json → Json → Prop} {read : Json → Option α}
  {record other : Record} {name : String}

/-- Changes in the items make no difference to a list, if they make none to each item. -/
theorem list (h : IsUnseen changes read) :
    IsUnseen (Json.ItemsExtend changes) (Json.list? read) := by
  intro json changed hchange
  cases hchange with
  | same => rfl
  | array hitems =>
    simp only [Json.list?]
    induction hitems with
    | nil => rfl
    | cons hitem _ ih => rw [List.mapM_cons, List.mapM_cons, h _ _ hitem, ih]

/-- Unseen changes make no difference to a slot that is there. -/
theorem required? (h : IsUnseen changes read)
    (hlookup : Option.Rel changes (Json.lookup name record.members)
      (Json.lookup name other.members)) :
    other.required? name read = record.required? name read := by
  unfold Record.required?
  generalize Json.lookup name record.members = value,
    Json.lookup name other.members = changed at hlookup ⊢
  cases hlookup with
  | none => rfl
  | some hvalue => exact h _ _ hvalue

/-- Unseen changes make no difference to a slot that may be absent, if null is not changed. -/
theorem optional? (h : IsUnseen changes read)
    (hnull : ∀ json changed, changes json changed → (json = .null ↔ changed = .null))
    (hlookup : Option.Rel changes (Json.lookup name record.members)
      (Json.lookup name other.members)) :
    other.optional? name read = record.optional? name read := by
  unfold Record.optional?
  generalize Json.lookup name record.members = value,
    Json.lookup name other.members = changed at hlookup ⊢
  cases hlookup with
  | none => rfl
  | @some json changed hvalue =>
    by_cases hjson : json = .null
    · rw [(hnull json changed hvalue).mp hjson, hjson]
    · have hchanged : changed ≠ .null := mt (hnull json changed hvalue).mpr hjson
      simp [h json changed hvalue]

end IsUnseen

end IssueSearch
