import IssueSearch.Canonical
import IssueSearch.Proofs.Filters
import IssueSearch.Proofs.Query.Effect
import IssueSearch.Proofs.Query.Reads

/-!
# Written filters read back

A filter that the canonical form writes is read as one filter on its field, with
the operator and the value that were written.

* `toList_writeFilter`: the characters of a filter;
* `readsTo_filter`: a filter on a standard field contributes its clause;
* `readsTo_number`, `readsTo_negative`, `readsTo_date`, `readsTo_enum`,
  `readsTo_title`, `readsTo_sort`: the filters by the type of their values;
* `isSolid_of_mem_values`, `lowercase_of_mem_values`, `typedClause_enum`: the values
  that the table allows.
-/

namespace IssueSearch

open Text (isSolid)
open Time (Instant)

/-- The characters of a written filter. -/
theorem toList_writeFilter (field symbol value : String) :
    (writeFilter field symbol value).toList =
      field.toList ++ ':' :: (symbol.toList ++ value.toList) := by
  simp [writeFilter]

/-- The field is part of the table with this type, and filters on it may use the
operator. -/
def Schema.Offers (schema : Schema) (name : String) (type : FieldType) (op : Operator) : Prop :=
  ∃ field ∈ schema.fields, field.name = name ∧ field.type = type ∧ field.allows op = true

/-- Every field of the table is found under its own name, which is an
identifier. -/
theorem standard_names : ∀ field ∈ Schema.standard.fields,
    isName field.name.toList = true ∧
    Schema.standard.resolve? field.name.toList = some (.field field.name) ∧
    Schema.standard.lookup field.name.toList = some field := by
  decide

/-- The characters that a written value starts with. -/
def IsValueStart (value : List Char) : Prop :=
  ∃ c ∈ value.head?, c ∉ ['>', '<', '!', '=', '"']

/-- A value that starts with an identifier or a dash starts as a value. -/
theorem isValueStart_cons {c : Char} (rest : List Char) (h : isNamePart c = true ∨ c = '-') :
    IsValueStart (c :: rest) := by
  refine ⟨c, rfl, fun hmem => ?_⟩
  simp only [List.mem_cons, List.not_mem_nil, or_false] at hmem
  rcases hmem with rfl | rfl | rfl | rfl | rfl <;> revert h <;> decide

/-- What a filter contributes once it has been checked. -/
def Effect.ofClause : Except Cause (Option Clause) → Effect
  | .ok (some (.text value)) => .word value
  | .ok (some found) => .clause found
  | .ok none => .nothing
  | .error cause => .reject cause

section

variable (now : Instant)

/-! ## Filters on any field -/

/-- A value without blanks is checked by the type of its field. -/
theorem clause?_of_solid {field : Field} {token : Token} {op : Operator}
    (hoperator : token.operator = some op) (hallows : field.allows op = true)
    (hvalue : ∀ c ∈ token.value.toList, isSolid c = true) (hne : token.value.toList ≠ []) :
    field.clause? token now = field.typedClause op token.value now := by
  rw [clause?_eq, hoperator, Text.trim_of_solid hvalue, if_neg hne, Option.getD_some,
    if_pos hallows, String.ofList_toList]

/-- A written filter contributes the clause of its value. -/
theorem readsTo_filter {field : Field} (hfield : field ∈ Schema.standard.fields) (op : Operator)
    (hallows : field.allows op = true) (hop : op ≠ .ne) {value : String}
    (hvalue : ∀ c ∈ value.toList, isSolid c = true) (hstart : IsValueStart value.toList)
    (before : Outcome) :
    ReadsTo Schema.standard now (writeFilter field.name op.symbol value).toList before
      (before.step (Effect.ofClause (field.typedClause op value now))) := by
  obtain ⟨hname, hresolve, hlookup⟩ := standard_names field hfield
  have hne : value.toList ≠ [] := by
    intro hnil
    obtain ⟨c, hc, _⟩ := hstart
    rw [hnil] at hc
    cases hc
  rw [toList_writeFilter]
  refine readsTo_of_readLexeme?
    (fun rest hrest => readLexeme?_filter op hname hresolve hvalue hstart hrest) ?_ before
  simp only [Reading.effect, Token.effect, Reading.token, Schema.Subject.kind,
    Schema.Subject.name, Option.bind_some, hlookup, String.ofList_toList]
  rw [Token.fieldEffect, clause?_of_solid now rfl hallows hvalue hne]
  have hnegation : (some op == some Operator.ne) = false := by simpa using hop
  cases field.typedClause op value now with
  | error cause => rfl
  | ok found =>
    cases found with
    | none => rfl
    | some clause =>
      simp only [Token.isNegation, hnegation]
      cases clause <;> rfl

/-! ## Numbers -/

/-- A written integer is accepted unless it is negative. -/
theorem nonNegative_writeInteger (field : Field) (n : Int64) :
    field.nonNegative (Text.writeInteger n.toInt) =
      if n.toInt < 0 then
        .error (.negativeNumberRejected field.name (String.ofList (Text.writeInteger n.toInt)))
      else .ok n := by
  rw [Field.nonNegative, Text.readInt64?_writeInteger]
  simp only [Int64.lt_iff_toInt_lt, Int64.toInt_zero]

/-- A written integer has no blanks and starts as a value. -/
theorem isSolid_writeInteger (n : Int) :
    (∀ c ∈ Text.writeInteger n, isSolid c = true) ∧ IsValueStart (Text.writeInteger n) := by
  refine ⟨fun c hc => ?_, ?_⟩
  · rcases Text.mem_writeInteger hc with rfl | hdigit
    · decide
    · exact (Text.isSolid_iff c).mpr (Text.isBlank_of_isDigit hdigit)
  · cases hwritten : Text.writeInteger n with
    | nil => exact absurd hwritten (Text.writeInteger_ne_nil n)
    | cons c rest =>
      refine isValueStart_cons rest ?_
      rcases Text.mem_writeInteger (hwritten ▸ List.mem_cons_self) with hc | hc
      · exact Or.inr hc
      · exact Or.inl (isNamePart_of_isDigit hc)

/-- The written filter on a number. -/
def writeNumber (name : String) (op : Operator) (n : Int64) : List Char :=
  (writeFilter name op.symbol (String.ofList (Text.writeInteger n.toInt))).toList

/-- A written bound sets its slots, or is rejected when it is negative. -/
theorem readsTo_writeNumber {name : String} {op : Operator}
    (hoffers : Schema.standard.Offers name .number op) (hop : op ≠ .ne) (n : Int64)
    (before : Outcome) :
    ReadsTo Schema.standard now (writeNumber name op n) before
      (before.step (if n.toInt < 0 then
        .reject (.negativeNumberRejected name (String.ofList (Text.writeInteger n.toInt)))
      else .clause (.number name op n))) := by
  obtain ⟨field, hfield, rfl, htype, hallows⟩ := hoffers
  obtain ⟨hsolid, hstart⟩ := isSolid_writeInteger n.toInt
  rw [← String.toList_ofList (l := Text.writeInteger n.toInt)] at hsolid hstart
  have hread := readsTo_filter now hfield op hallows hop hsolid hstart before
  have hclause : field.typedClause op (String.ofList (Text.writeInteger n.toInt)) now =
      if n.toInt < 0 then
        .error (.negativeNumberRejected field.name (String.ofList (Text.writeInteger n.toInt)))
      else .ok (some (.number field.name op n)) := by
    rw [Field.typedClause, htype, String.toList_ofList]
    dsimp only
    rw [nonNegative_writeInteger]
    split <;> rfl
  rw [hclause] at hread
  by_cases hneg : n.toInt < 0
  · rw [if_pos hneg] at hread ⊢
    exact hread
  · rw [if_neg hneg] at hread ⊢
    exact hread

/-- A written bound that is not negative sets its slots. -/
theorem readsTo_number {name : String} {op : Operator}
    (hoffers : Schema.standard.Offers name .number op) (hop : op ≠ .ne) {n : Int64}
    (hn : 0 ≤ n.toInt) (before : Outcome) :
    ReadsTo Schema.standard now (writeNumber name op n) before
      { before with filters := before.filters.apply (.number name op n) } := by
  have hread := readsTo_writeNumber now hoffers hop n before
  rwa [if_neg (by omega)] at hread

/-- A written negative bound is rejected. -/
theorem readsTo_negative {name : String} {op : Operator}
    (hoffers : Schema.standard.Offers name .number op) (hop : op ≠ .ne) {n : Int64}
    (hn : n.toInt < 0) (before : Outcome) :
    ReadsTo Schema.standard now (writeNumber name op n) before
      { before with causes := before.causes ++
          [.negativeNumberRejected name (String.ofList (Text.writeInteger n.toInt))] } := by
  have hread := readsTo_writeNumber now hoffers hop n before
  rwa [if_pos hn] at hread

/-! ## Dates -/

/-- A written date bounds its field by the instant that its wire form denotes. -/
theorem readsTo_date {name : String} {op : Operator}
    (hoffers : Schema.standard.Offers name .date op) (hop : op = .gt ∨ op = .lt)
    {moment : Instant} (hmoment : moment.isRepresentable = true) (before : Outcome) :
    ReadsTo Schema.standard now (writeFilter name op.symbol moment.format).toList before
      { before with filters := before.filters.apply (.date name op moment.cut) } := by
  obtain ⟨field, hfield, rfl, htype, hallows⟩ := hoffers
  have hformat : moment.format.toList = Time.writeMillis moment := String.toList_ofList ..
  have hsolid : ∀ c ∈ moment.format.toList, isSolid c = true := by
    rw [hformat]
    exact Time.isSolid_of_mem_writeMillis moment
  have hstart : IsValueStart moment.format.toList := by
    obtain ⟨c, rest, hwritten, hc⟩ := Time.exists_writeMillis_eq_cons hmoment
    rw [hformat, hwritten]
    exact isValueStart_cons rest (Or.inl (isNamePart_of_isDigit hc))
  have hne : op ≠ .eq ∧ op ≠ .ne := by
    rcases hop with rfl | rfl <;> decide
  have hclause : field.typedClause op moment.format now =
      .ok (some (.date field.name op moment.cut)) := by
    have hresolve := Time.resolve?_writeMillis now hmoment
    have hfound : Field.moment? op moment.format.toList now = some moment.cut := by
      rw [Field.moment?, hformat, hresolve]
      simp [hne.1]
    rw [Field.typedClause, htype]
    dsimp only
    rw [hfound]
  have hread := readsTo_filter now hfield op hallows hne.2 hsolid hstart before
  rwa [hclause] at hread

/-! ## Values of a list -/

/-- The allowed values of the table are words in lower case. -/
theorem standard_allowed : ∀ field ∈ Schema.standard.fields, ∀ value ∈ field.values,
    value.toList.all (fun c => isSolid c && c.toNat < 0x80) = true ∧
    value.toList.head?.any isNamePart = true ∧
    Text.lowerAscii value.toList = value.toList := by
  decide

/-- An allowed value has no blanks and starts as a value. -/
theorem isSolid_of_mem_values {field : Field} (hfield : field ∈ Schema.standard.fields)
    {value : String} (hvalue : value ∈ field.values) :
    (∀ c ∈ value.toList, isSolid c = true) ∧ IsValueStart value.toList := by
  obtain ⟨hall, hhead, _⟩ := standard_allowed field hfield value hvalue
  have hchars : ∀ c ∈ value.toList, isSolid c = true ∧ c.toNat < 0x80 := by
    simpa using hall
  refine ⟨fun c hc => (hchars c hc).1, ?_⟩
  cases hlist : value.toList with
  | nil => rw [hlist] at hhead; cases hhead
  | cons c rest =>
    rw [hlist] at hhead
    exact isValueStart_cons rest (Or.inl hhead)

/-- The allowed values of the table are written in lower case. -/
theorem lowercase_of_mem_values {field : Field} (hfield : field ∈ Schema.standard.fields)
    {value : String} (hvalue : value ∈ field.values) :
    Text.lowercase value.toList = value.toList := by
  obtain ⟨hall, _, hlow⟩ := standard_allowed field hfield value hvalue
  have hchars : ∀ c ∈ value.toList, isSolid c = true ∧ c.toNat < 0x80 := by
    simpa using hall
  rw [Text.lowercase_ascii _ fun c hc => (hchars c hc).2, hlow]

/-- An allowed value is accepted. -/
theorem typedClause_enum {field : Field} (hfield : field ∈ Schema.standard.fields)
    (htype : field.type = .enum) {value : String} (hvalue : value ∈ field.values)
    (op : Operator) : field.typedClause op value now = .ok (some (.enum field.name value)) := by
  have haccepts : field.accepts value.toList = true :=
    List.any_eq_true.mpr ⟨value, hvalue, by simp [Text.eqIgnoreCase]⟩
  rw [Field.typedClause, htype]
  dsimp only
  rw [Field.enumClause, lowercase_of_mem_values hfield hvalue, if_pos haccepts,
    String.ofList_toList]
  rfl

/-- A written value of a list is added to its slot. -/
theorem readsTo_enum {field : Field} (hfield : field ∈ Schema.standard.fields)
    (htype : field.type = .enum) (hallows : field.allows .eq = true) {value : String}
    (hvalue : value ∈ field.values) (before : Outcome) :
    ReadsTo Schema.standard now (writeFilter field.name "" value).toList before
      { before with filters := before.filters.apply (.enum field.name value) } := by
  obtain ⟨hsolid, hstart⟩ := isSolid_of_mem_values hfield hvalue
  have hread := readsTo_filter now hfield .eq hallows (by decide) hsolid hstart before
  rwa [typedClause_enum now hfield htype hvalue] at hread

/-! ## Texts -/

/-- A text without blanks that starts as a value is a word when it is written as a
title. -/
theorem readsTo_title {text : List Char} (htext : ∀ c ∈ text, isSolid c = true)
    (hstart : IsValueStart text) (before : Outcome) :
    ReadsTo Schema.standard now ("title:".toList ++ text) before
      { before with words := before.words ++ [String.ofList text] } := by
  have hoffers : Schema.standard.Offers "title" .text .eq := by
    unfold Schema.Offers
    decide
  obtain ⟨field, hfield, hname, htype, hallows⟩ := hoffers
  rw [← String.toList_ofList (l := text)] at htext hstart
  have hread := readsTo_filter now hfield .eq hallows (by decide) htext hstart
    before
  have hclause : field.typedClause .eq (String.ofList text) now =
      .ok (some (.text (String.ofList text))) := by
    rw [Field.typedClause, htype]
  have hpart : "title:".toList ++ text =
      "title".toList ++ ':' :: ("".toList ++ (String.ofList text).toList) := by
    simp
  rw [hclause, hname, toList_writeFilter] at hread
  rw [hpart]
  exact hread

/-! ## Sort orders -/

/-- The value of a sort order. -/
def sortValue (order : SortOrder) : String :=
  match order.direction with
  | .desc => order.field
  | .asc => order.field ++ ":asc"

/-- The value of a sort order is a word that names the order. -/
theorem sortOrder?_sortValue {order : SortOrder} (h : isSortable order.field = true) :
    (∀ c ∈ (sortValue order).toList, isSolid c = true) ∧ IsValueStart (sortValue order).toList ∧
      sortOrder? (sortValue order).toList = .ok (some order) := by
  obtain ⟨field, direction⟩ := order
  simp only [isSortable, sortableFields, List.contains_eq_mem, List.mem_cons, List.not_mem_nil,
    or_false, decide_eq_true_eq] at h
  rcases h with rfl | rfl | rfl | rfl <;> cases direction <;>
    exact ⟨List.all_eq_true.mp (by decide), isValueStart_cons _ (by decide), by rfl⟩

/-- A written sort order is the order of the results. -/
theorem readsTo_sort {order : SortOrder} (h : isSortable order.field = true)
    (before : Outcome) :
    ReadsTo Schema.standard now (writeFilter sortKeyword "" (sortValue order)).toList before
      { before with sort := some order } := by
  obtain ⟨hsolid, hstart, horder⟩ := sortOrder?_sortValue h
  have hname : isName sortKeyword.toList = true := by decide
  have hresolve : Schema.standard.resolve? sortKeyword.toList = some .sort := by decide
  rw [toList_writeFilter]
  show ReadsTo _ _ _ _ (before.step (.sort order))
  refine readsTo_of_readLexeme?
    (fun rest hrest => readLexeme?_filter .eq hname hresolve hsolid hstart hrest) ?_ before
  simp only [Reading.effect, Token.effect, Reading.token, Schema.Subject.kind]
  rw [Token.sortEffect, String.ofList_toList, horder]

end

end IssueSearch
