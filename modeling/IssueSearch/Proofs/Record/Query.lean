import IssueSearch.Proofs.Record.Basic
import IssueSearch.Record.Request

/-!
# Queries and requests read back

The records of queries and requests, and of everything in them, read back as what has been
written.  They hold a slot exactly when it is there, and members of other names make no difference
at any level.

* `Token.holds`, `Filters.holds`, `Query.holds`, `SearchRequest.holds`: the slots that are written;
* `Token.Extends`, …, `SearchRequest.Extends`: a record with further members at all its levels;
* `IsRecordForm`: how a value is written and read;
* `isRecordForm_token`, …, `isRecordForm_request`: one lemma for each record;
* `queries_and_requests_read_back`: all of them, and where one stands in another.
-/

namespace IssueSearch

/-! ## Slots that are written -/

namespace Token

/-- Whether a slot of the record of a token is written. -/
def holds (token : Token) : String → Bool
  | "field" => token.field.isSome
  | "operator" => token.operator.isSome
  | "negated" => token.negated
  | _ => true

end Token

namespace Filters

/-- Whether a slot of the record of the filters is written. -/
def holds (filters : Filters) : String → Bool
  | "status" => filters.status.isSome
  | "level" => filters.level.isSome
  | "count_gt" => filters.countGt.isSome
  | "count_lt" => filters.countLt.isSome
  | "count_gte" => filters.countGte.isSome
  | "count_lte" => filters.countLte.isSome
  | "users_gt" => filters.usersGt.isSome
  | "users_lt" => filters.usersLt.isSome
  | "first_seen_after" => filters.firstSeenAfter.isSome
  | "first_seen_before" => filters.firstSeenBefore.isSome
  | "last_seen_after" => filters.lastSeenAfter.isSome
  | "last_seen_before" => filters.lastSeenBefore.isSome
  | "text" => filters.text.isSome
  | _ => false

end Filters

namespace Query

/-- Whether a slot of the record of a query is written. -/
def holds (query : Query) : String → Bool
  | "sort" => query.sort.isSome
  | _ => true

end Query

namespace SearchRequest

/-- Whether a slot of the record of a request is written. -/
def holds (request : SearchRequest) : String → Bool
  | "filters" => request.filters.isSome
  | "sort" => request.sort.isSome
  | _ => true

end SearchRequest

/-! ## Further members at all levels -/

/-- The record of a token with further members. -/
def Token.Extends : Json → Json → Prop :=
  Json.Extends slots fun _ => Eq

/-- The record of the filters with further members. -/
def Filters.Extends : Json → Json → Prop :=
  Json.Extends slots fun _ => Eq

/-- The record of an order with further members. -/
def SortOrder.Extends : Json → Json → Prop :=
  Json.Extends slots fun _ => Eq

namespace Cause

/-- The slots of the cause with a name, besides the name. -/
def slotsOf : String → List Slot
  | "unknown_field" => [.always "field"]
  | "invalid_enum_value" => [.always "field", .always "value", .always "allowed"]
  | "invalid_number" => [.always "field", .always "value"]
  | "negative_number_rejected" => [.always "field", .always "value"]
  | "invalid_date" => [.always "field", .always "value"]
  | "invalid_sort_field" => [.always "field", .always "allowed"]
  | "unsupported_operator" => [.always "field", .always "operator"]
  | _ => []

/-- The slots of a cause. -/
def slots (cause : Cause) : List Slot :=
  .always "kind" :: slotsOf cause.name

/-- The slots that are read from a record, which its name decides. -/
def slotsIn (json : Json) : List Slot :=
  .always "kind" :: (tagged? json).elim [] fun (name, _) => slotsOf name

/-- The record of a cause with further members, which may be slots of other causes. -/
def Extends (json changed : Json) : Prop :=
  Json.Extends (slotsIn json) (fun _ => Eq) json changed

end Cause

/-- The record of a diagnostic with further members, also in its cause. -/
def Diagnostic.Extends : Json → Json → Prop :=
  Json.Extends slots fun
    | "kind" => Cause.Extends
    | _ => Eq

/-- The record of a query with further members, also in its parts. -/
def Query.Extends : Json → Json → Prop :=
  Json.Extends slots fun
    | "tokens" => Json.ItemsExtend Token.Extends
    | "filters" => Filters.Extends
    | "sort" => SortOrder.Extends
    | "errors" => Json.ItemsExtend Diagnostic.Extends
    | _ => Eq

/-- The record of a request with further members, also in its parts. -/
def SearchRequest.Extends : Json → Json → Prop :=
  Json.Extends slots fun
    | "filters" => Filters.Extends
    | "sort" => SortOrder.Extends
    | _ => Eq

/-! ## How a value is written and read -/

/-- A value reads back from its record.  The record consists of the slots that the value holds, and
with further members it is read as without them. -/
structure IsRecordForm {α : Type} (write : α → Json) (read : Json → Option α)
    (slots : α → List Slot) (holds : α → String → Bool) (extension : Json → Json → Prop) : Prop
    extends ReadsBack write read where
  keys_write (a : α) : (write a).keys = ((slots a).map (·.name)).filter (holds a)
  isUnseen : IsUnseen extension read

/-! ## Tokens -/

/-- Kinds of tokens read back. -/
theorem readsBack_tokenKind :
    ReadsBack (fun kind => .string (TokenKind.name kind))
      (Json.named? TokenKind.all TokenKind.name) :=
  readsBack_named fun kind => by cases kind <;> decide

/-- Operators read back. -/
theorem readsBack_operator :
    ReadsBack (fun op => .string (Operator.name op)) Operator.ofJson? :=
  readsBack_named Operator.ofName?_name

/-- The slots of a token have one name each. -/
theorem Token.isPlain_slots : IsPlain Token.slots where
  spelling := by simp [slots, Slot.always, Slot.trailing]
  nodup := by decide

/-- A token reads back. -/
theorem Token.ofJson?_toJson (token : Token) : ofJson? token.toJson = some token := by
  obtain ⟨record, hrecord, hlookup⟩ :=
    exists_ofJson?_ofMembers isPlain_slots (rfl : token.toJson = _) rfl
  simp only [List.forall_mem_cons] at hlookup
  obtain ⟨hkind, hfield, hoperator, hvalue, hnegated, hraw, hstart, hend, -⟩ := hlookup
  -- a mark that is not set is left out, and what is absent reads as not set
  have hnegatedRead : record.defaulted? "negated" false Json.bool? = some token.negated := by
    rw [Record.defaulted?, hnegated]
    cases token.negated <;> rfl
  exact bind_eq_some hrecord <| bind_eq_some (readsBack_tokenKind.required? hkind) <|
    bind_eq_some (readsBack_string.optional? hfield) <|
    bind_eq_some (readsBack_operator.optional? hoperator) <|
    bind_eq_some (readsBack_string.required? hvalue) <| bind_eq_some hnegatedRead <|
    bind_eq_some (readsBack_string.required? hraw) <|
    bind_eq_some (readsBack_nat.required? hstart) <|
    bind_eq_some (readsBack_nat.required? hend) rfl

/-- Tokens as records. -/
theorem isRecordForm_token :
    IsRecordForm Token.toJson Token.ofJson? (fun _ => Token.slots) Token.holds Token.Extends where
  read_write := Token.ofJson?_toJson
  read_null := rfl
  keys_write token := by
    refine Json.keys_ofMembers ?_
    simp only [List.forall_mem_cons]
    cases hnegated : token.negated <;> simp [Token.holds, hnegated]
  isUnseen json changed h := by
    simp only [Token.ofJson?, h.ofJson?_eq Token.isPlain_slots (List.Subset.refl _)]

/-! ## Filters -/

/-- The slots of the filters have one name each. -/
theorem Filters.isPlain_slots : IsPlain Filters.slots where
  spelling := by simp [slots, Slot.trailing]
  nodup := by decide

/-- Filters read back. -/
theorem Filters.ofJson?_toJson (filters : Filters) : ofJson? filters.toJson = some filters := by
  obtain ⟨record, hrecord, hlookup⟩ :=
    exists_ofJson?_ofMembers isPlain_slots (rfl : filters.toJson = _) rfl
  simp only [List.forall_mem_cons] at hlookup
  obtain ⟨hstatus, hlevel, hcountGt, hcountLt, hcountGte, hcountLte, husersGt, husersLt,
    hfirstAfter, hfirstBefore, hlastAfter, hlastBefore, htext, -⟩ := hlookup
  exact bind_eq_some hrecord <|
    bind_eq_some (readsBack_strings.optional? hstatus) <|
    bind_eq_some (readsBack_strings.optional? hlevel) <|
    bind_eq_some (readsBack_int64.optional? hcountGt) <|
    bind_eq_some (readsBack_int64.optional? hcountLt) <|
    bind_eq_some (readsBack_int64.optional? hcountGte) <|
    bind_eq_some (readsBack_int64.optional? hcountLte) <|
    bind_eq_some (readsBack_int64.optional? husersGt) <|
    bind_eq_some (readsBack_int64.optional? husersLt) <|
    bind_eq_some (readsBack_string.optional? hfirstAfter) <|
    bind_eq_some (readsBack_string.optional? hfirstBefore) <|
    bind_eq_some (readsBack_string.optional? hlastAfter) <|
    bind_eq_some (readsBack_string.optional? hlastBefore) <|
    bind_eq_some (readsBack_string.optional? htext) rfl

/-- Filters as records. -/
theorem isRecordForm_filters :
    IsRecordForm Filters.toJson Filters.ofJson? (fun _ => Filters.slots) Filters.holds
      Filters.Extends where
  read_write := Filters.ofJson?_toJson
  read_null := rfl
  keys_write filters := by
    refine Json.keys_ofMembers ?_
    simp only [List.forall_mem_cons]
    simp [Filters.holds]
  isUnseen json changed h := by
    simp only [Filters.ofJson?, h.ofJson?_eq Filters.isPlain_slots (List.Subset.refl _)]

/-! ## Orders -/

/-- Directions read back. -/
theorem readsBack_direction :
    ReadsBack (fun direction => .string (Direction.name direction))
      (Json.named? Direction.all Direction.name) :=
  readsBack_named fun direction => by cases direction <;> decide

/-- The slots of an order have one name each. -/
theorem SortOrder.isPlain_slots : IsPlain SortOrder.slots where
  spelling := by simp [slots, Slot.always]
  nodup := by decide

/-- An order reads back. -/
theorem SortOrder.ofJson?_toJson (order : SortOrder) : ofJson? order.toJson = some order := by
  obtain ⟨record, hrecord, hlookup⟩ := exists_ofJson? isPlain_slots
    [("field", .string order.field), ("direction", .string order.direction.name)]
  simp only [slots, List.forall_mem_cons] at hlookup
  obtain ⟨hfield, hdirection, -⟩ := hlookup
  exact bind_eq_some hrecord <|
    bind_eq_some (readsBack_string.required? (hfield.trans rfl)) <|
    bind_eq_some (readsBack_direction.required? (hdirection.trans rfl)) rfl

/-- Orders as records. -/
theorem isRecordForm_sortOrder :
    IsRecordForm SortOrder.toJson SortOrder.ofJson? (fun _ => SortOrder.slots) (fun _ _ => true)
      SortOrder.Extends where
  read_write := SortOrder.ofJson?_toJson
  read_null := rfl
  keys_write _ := rfl
  isUnseen json changed h := by
    simp only [SortOrder.ofJson?, h.ofJson?_eq SortOrder.isPlain_slots (List.Subset.refl _)]

/-! ## Causes -/

namespace Cause

/-- The slots of each cause have one name each. -/
theorem isPlain_slotsOf (name : String) : IsPlain (slotsOf name) := by
  unfold slotsOf
  split <;> exact ⟨by simp [Slot.always], by decide⟩

/-- A cause with a field and a value reads back. -/
theorem ofFieldAndValue?_object {cause : String → String → Cause}
    {members : List (String × Json)} {field value : String}
    (hfield : Json.lookup "field" members = some (.string field))
    (hvalue : Json.lookup "value" members = some (.string value)) :
    ofFieldAndValue? cause (.object members) = some (cause field value) := by
  obtain ⟨record, hrecord, hlookup⟩ := exists_ofJson? (isPlain_slotsOf "invalid_number") members
  simp only [slotsOf, List.forall_mem_cons] at hlookup
  obtain ⟨hfieldRead, hvalueRead, -⟩ := hlookup
  exact bind_eq_some hrecord <|
    bind_eq_some (readsBack_string.required? (hfieldRead.trans hfield)) <|
    bind_eq_some (readsBack_string.required? (hvalueRead.trans hvalue)) rfl

/-- A cause reads back. -/
theorem ofJson?_toJson (cause : Cause) : ofJson? cause.toJson = some cause := by
  have htagged : tagged? cause.toJson = some (cause.name, cause.toJson) := rfl
  refine bind_eq_some htagged ?_
  obtain ⟨record, hrecord, hlookup⟩ :
      ∃ record, Record.ofJson? (slotsOf cause.name) cause.toJson = some record ∧
        ∀ slot ∈ slotsOf cause.name, Json.lookup slot.name record.members =
          cause.toJson.member? slot.name :=
    exists_ofJson? (isPlain_slotsOf cause.name) _
  cases cause with
  | unknownField field =>
    obtain ⟨hfield, -⟩ := List.forall_mem_cons.mp hlookup
    exact bind_eq_some hrecord <|
      bind_eq_some (readsBack_string.required? (hfield.trans rfl)) rfl
  | invalidEnumValue field value allowed =>
    simp only [name, slotsOf, List.forall_mem_cons] at hlookup
    obtain ⟨hfield, hvalue, hallowed, -⟩ := hlookup
    exact bind_eq_some hrecord <|
      bind_eq_some (readsBack_string.required? (hfield.trans rfl)) <|
      bind_eq_some (readsBack_string.required? (hvalue.trans rfl)) <|
      bind_eq_some (readsBack_strings.required? (hallowed.trans rfl)) rfl
  | invalidNumber field value => exact ofFieldAndValue?_object rfl rfl
  | negativeNumberRejected field value => exact ofFieldAndValue?_object rfl rfl
  | invalidDate field value => exact ofFieldAndValue?_object rfl rfl
  | invalidSortField field allowed =>
    simp only [name, slotsOf, List.forall_mem_cons] at hlookup
    obtain ⟨hfield, hallowed, -⟩ := hlookup
    exact bind_eq_some hrecord <|
      bind_eq_some (readsBack_string.required? (hfield.trans rfl)) <|
      bind_eq_some (readsBack_strings.required? (hallowed.trans rfl)) rfl
  | unsupportedOperator field operator =>
    simp only [name, slotsOf, List.forall_mem_cons] at hlookup
    obtain ⟨hfield, hoperator, -⟩ := hlookup
    exact bind_eq_some hrecord <|
      bind_eq_some (readsBack_string.required? (hfield.trans rfl)) <|
      bind_eq_some (readsBack_string.required? (hoperator.trans rfl)) rfl

/-- A cause is read as without further members. -/
theorem isUnseen_extends : IsUnseen Cause.Extends ofJson? := by
  intro json changed h
  cases h with
  | same => rfl
  | @object members others hmembers =>
    have hkind : Json.lookup "kind" others = Json.lookup "kind" members :=
      hmembers.lookup_eq (List.mem_cons_self ..)
    cases hname : (Json.lookup "kind" members).bind Json.string? with
    | none =>
      simp only [ofJson?, tagged?, hkind, hname, Option.bind_eq_bind, Option.bind_none]
    | some name =>
      -- the slots of the other causes are not read
      have hread {slots : List Slot} (hslots : slots = slotsOf name) :
          Record.ofJson? slots (.object others) = Record.ofJson? slots (.object members) := by
        refine (Json.Extends.object hmembers).ofJson?_eq (hslots ▸ isPlain_slotsOf name) ?_
        simp [slotsIn, tagged?, hname, hslots]
      simp only [ofJson?, tagged?, hkind, hname, Option.bind_eq_bind, Option.bind_some]
      split <;> simp only [ofFieldAndValue?, hread, slotsOf]

/-- Causes as records. -/
theorem isRecordForm_cause :
    IsRecordForm toJson ofJson? slots (fun _ _ => true) Cause.Extends where
  read_write := ofJson?_toJson
  read_null := rfl
  keys_write cause := by cases cause <;> rfl
  isUnseen := isUnseen_extends

end Cause

/-! ## Diagnostics -/

/-- The slots of a diagnostic have one name each. -/
theorem Diagnostic.isPlain_slots : IsPlain Diagnostic.slots where
  spelling := by simp [slots, Slot.always]
  nodup := by decide

/-- A diagnostic reads back. -/
theorem Diagnostic.ofJson?_toJson (diagnostic : Diagnostic) :
    ofJson? diagnostic.toJson = some diagnostic := by
  obtain ⟨record, hrecord, hlookup⟩ := exists_ofJson? isPlain_slots
    [("kind", diagnostic.cause.toJson), ("message", .string diagnostic.message),
      ("startIndex", .int diagnostic.startIndex), ("endIndex", .int diagnostic.endIndex)]
  simp only [slots, List.forall_mem_cons] at hlookup
  obtain ⟨hcause, hmessage, hstart, hend, -⟩ := hlookup
  exact bind_eq_some hrecord <|
    bind_eq_some (Cause.isRecordForm_cause.required? (hcause.trans rfl)) <|
    bind_eq_some (readsBack_string.required? (hmessage.trans rfl)) <|
    bind_eq_some (readsBack_nat.required? (hstart.trans rfl)) <|
    bind_eq_some (readsBack_nat.required? (hend.trans rfl)) rfl

/-- A diagnostic is read as without further members. -/
theorem Diagnostic.isUnseen_extends : IsUnseen Diagnostic.Extends ofJson? := by
  intro json changed h
  cases h with
  | same => rfl
  | object hmembers =>
    obtain ⟨record, other, hrecord, hother, hlookup⟩ :=
      exists_ofJson?_of_addsMembers isPlain_slots hmembers
    simp only [slots, List.forall_mem_cons] at hlookup
    obtain ⟨hcause, hmessage, hstart, hend, -⟩ := hlookup
    have hcauseRead : other.required? "kind" Cause.ofJson? = _ :=
      Cause.isUnseen_extends.required? hcause
    have hmessageRead : other.required? "message" Json.string? = _ :=
      (isUnseen_eq _).required? hmessage
    have hstartRead : other.required? "startIndex" Json.nat? = _ :=
      (isUnseen_eq _).required? hstart
    have hendRead : other.required? "endIndex" Json.nat? = _ := (isUnseen_eq _).required? hend
    simp only [ofJson?, hrecord, hother, hcauseRead, hmessageRead, hstartRead, hendRead,
      Option.bind_eq_bind, Option.bind_some]

/-- Diagnostics as records. -/
theorem isRecordForm_diagnostic :
    IsRecordForm Diagnostic.toJson Diagnostic.ofJson? (fun _ => Diagnostic.slots)
      (fun _ _ => true) Diagnostic.Extends where
  read_write := Diagnostic.ofJson?_toJson
  read_null := rfl
  keys_write _ := rfl
  isUnseen := Diagnostic.isUnseen_extends

/-! ## Queries -/

/-- The slots of a query have one name each. -/
theorem Query.isPlain_slots : IsPlain Query.slots where
  spelling := by simp [slots, Slot.always, Slot.trailing]
  nodup := by decide

/-- A query reads back. -/
theorem Query.ofJson?_toJson (query : Query) : ofJson? query.toJson = some query := by
  obtain ⟨record, hrecord, hlookup⟩ :=
    exists_ofJson?_ofMembers isPlain_slots (rfl : query.toJson = _) rfl
  simp only [List.forall_mem_cons] at hlookup
  obtain ⟨htokens, hfreeText, hfilters, hsort, herrors, -⟩ := hlookup
  exact bind_eq_some hrecord <|
    bind_eq_some (isRecordForm_token.list.required? htokens) <|
    bind_eq_some (readsBack_string.required? hfreeText) <|
    bind_eq_some (isRecordForm_filters.required? hfilters) <|
    bind_eq_some (isRecordForm_sortOrder.optional? hsort) <|
    bind_eq_some (isRecordForm_diagnostic.list.required? herrors) rfl

/-- A query is read as without further members. -/
theorem Query.isUnseen_extends : IsUnseen Query.Extends ofJson? := by
  intro json changed h
  cases h with
  | same => rfl
  | object hmembers =>
    obtain ⟨record, other, hrecord, hother, hlookup⟩ :=
      exists_ofJson?_of_addsMembers isPlain_slots hmembers
    simp only [slots, List.forall_mem_cons] at hlookup
    obtain ⟨htokens, hfreeText, hfilters, hsort, herrors, -⟩ := hlookup
    have htokensRead : other.required? "tokens" (Json.list? Token.ofJson?) = _ :=
      isRecordForm_token.isUnseen.list.required? htokens
    have hfreeTextRead : other.required? "freeText" Json.string? = _ :=
      (isUnseen_eq _).required? hfreeText
    have hfiltersRead : other.required? "filters" Filters.ofJson? = _ :=
      isRecordForm_filters.isUnseen.required? hfilters
    have hsortRead : other.optional? "sort" SortOrder.ofJson? = _ :=
      isRecordForm_sortOrder.isUnseen.optional? (fun _ _ => Json.Extends.null_iff) hsort
    have herrorsRead : other.required? "errors" (Json.list? Diagnostic.ofJson?) = _ :=
      Diagnostic.isUnseen_extends.list.required? herrors
    simp only [ofJson?, hrecord, hother, htokensRead, hfreeTextRead, hfiltersRead, hsortRead,
      herrorsRead, Option.bind_eq_bind, Option.bind_some]

/-- Queries as records. -/
theorem isRecordForm_query :
    IsRecordForm Query.toJson Query.ofJson? (fun _ => Query.slots) Query.holds
      Query.Extends where
  read_write := Query.ofJson?_toJson
  read_null := rfl
  keys_write query := by
    refine Json.keys_ofMembers ?_
    simp only [List.forall_mem_cons]
    simp [Query.holds]
  isUnseen := Query.isUnseen_extends

/-! ## Requests -/

/-- The slots of a request have one name each. -/
theorem SearchRequest.isPlain_slots : IsPlain SearchRequest.slots where
  spelling := by simp [slots, Slot.always, Slot.trailing]
  nodup := by decide

/-- A request reads back. -/
theorem SearchRequest.ofJson?_toJson (request : SearchRequest) :
    ofJson? request.toJson = some request := by
  obtain ⟨record, hrecord, hlookup⟩ :=
    exists_ofJson?_ofMembers isPlain_slots (rfl : request.toJson = _) rfl
  simp only [List.forall_mem_cons] at hlookup
  obtain ⟨hfilters, hsort, hpage, hperPage, -⟩ := hlookup
  exact bind_eq_some hrecord <|
    bind_eq_some (isRecordForm_filters.optional? hfilters) <|
    bind_eq_some (isRecordForm_sortOrder.optional? hsort) <|
    bind_eq_some (readsBack_uint32.required? hpage) <|
    bind_eq_some (readsBack_uint32.required? hperPage) rfl

/-- A request is read as without further members. -/
theorem SearchRequest.isUnseen_extends : IsUnseen SearchRequest.Extends ofJson? := by
  intro json changed h
  cases h with
  | same => rfl
  | object hmembers =>
    obtain ⟨record, other, hrecord, hother, hlookup⟩ :=
      exists_ofJson?_of_addsMembers isPlain_slots hmembers
    simp only [slots, List.forall_mem_cons] at hlookup
    obtain ⟨hfilters, hsort, hpage, hperPage, -⟩ := hlookup
    have hfiltersRead : other.optional? "filters" Filters.ofJson? = _ :=
      isRecordForm_filters.isUnseen.optional? (fun _ _ => Json.Extends.null_iff) hfilters
    have hsortRead : other.optional? "sort" SortOrder.ofJson? = _ :=
      isRecordForm_sortOrder.isUnseen.optional? (fun _ _ => Json.Extends.null_iff) hsort
    have hpageRead : other.required? "page" Json.uint32? = _ := (isUnseen_eq _).required? hpage
    have hperPageRead : other.required? "per_page" Json.uint32? = _ :=
      (isUnseen_eq _).required? hperPage
    simp only [ofJson?, hrecord, hother, hfiltersRead, hsortRead, hpageRead, hperPageRead,
      Option.bind_eq_bind, Option.bind_some]

/-- Requests as records. -/
theorem isRecordForm_request :
    IsRecordForm SearchRequest.toJson SearchRequest.ofJson? (fun _ => SearchRequest.slots)
      SearchRequest.holds SearchRequest.Extends where
  read_write := SearchRequest.ofJson?_toJson
  read_null := rfl
  keys_write request := by
    refine Json.keys_ofMembers ?_
    simp only [List.forall_mem_cons]
    simp [SearchRequest.holds]
  isUnseen := SearchRequest.isUnseen_extends

/-! ## All of them -/

/-- Queries and requests read back from their records, and so does everything in them.  Each record
has the slots that are there and no others, and with further members at any level it is read as
without them. -/
theorem queries_and_requests_read_back :
    IsRecordForm Query.toJson Query.ofJson? (fun _ => Query.slots) Query.holds Query.Extends ∧
    IsRecordForm SearchRequest.toJson SearchRequest.ofJson? (fun _ => SearchRequest.slots)
      SearchRequest.holds SearchRequest.Extends ∧
    IsRecordForm Token.toJson Token.ofJson? (fun _ => Token.slots) Token.holds Token.Extends ∧
    IsRecordForm Filters.toJson Filters.ofJson? (fun _ => Filters.slots) Filters.holds
      Filters.Extends ∧
    IsRecordForm SortOrder.toJson SortOrder.ofJson? (fun _ => SortOrder.slots) (fun _ _ => true)
      SortOrder.Extends ∧
    IsRecordForm Diagnostic.toJson Diagnostic.ofJson? (fun _ => Diagnostic.slots)
      (fun _ _ => true) Diagnostic.Extends ∧
    IsRecordForm Cause.toJson Cause.ofJson? Cause.slots (fun _ _ => true) Cause.Extends ∧
    (∀ query : Query,
      query.toJson.member? "tokens" = some (.array (query.tokens.map Token.toJson)) ∧
      query.toJson.member? "filters" = some query.filters.toJson ∧
      query.toJson.member? "sort" = query.sort.map SortOrder.toJson ∧
      query.toJson.member? "errors" = some (.array (query.errors.map Diagnostic.toJson))) ∧
    (∀ request : SearchRequest,
      request.toJson.member? "filters" = request.filters.map Filters.toJson ∧
      request.toJson.member? "sort" = request.sort.map SortOrder.toJson) ∧
    ∀ diagnostic : Diagnostic,
      diagnostic.toJson.member? "kind" = some diagnostic.cause.toJson := by
  refine ⟨isRecordForm_query, isRecordForm_request, isRecordForm_token, isRecordForm_filters,
    isRecordForm_sortOrder, isRecordForm_diagnostic, Cause.isRecordForm_cause, ?_, ?_, fun _ => rfl⟩
  · intro query
    have hmembers := Json.member?_ofMembers (rfl : query.toJson = _) Query.isPlain_slots.nodup
    simp only [List.forall_mem_cons] at hmembers
    obtain ⟨htokens, -, hfilters, hsort, herrors, -⟩ := hmembers
    exact ⟨htokens, hfilters, hsort, herrors⟩
  · intro request
    have hmembers :=
      Json.member?_ofMembers (rfl : request.toJson = _) SearchRequest.isPlain_slots.nodup
    simp only [List.forall_mem_cons] at hmembers
    obtain ⟨hfilters, hsort, -⟩ := hmembers
    exact ⟨hfilters, hsort⟩

/-- Members of other names stand at every level here, in the cause one that is a slot of other
causes. -/
theorem queries_and_requests_read_back_wider :
    Query.ofJson? (.object [
      ("version", .int 2),
      ("tokens", .array [.object [
        ("type", .string "field"), ("field", .string "status"), ("operator", .string "eq"),
        ("value", .string "open"), ("negated", .bool true), ("raw", .string "-status:open"),
        ("startIndex", .int 0), ("color", .null), ("endIndex", .int 12)]]),
      ("freeText", .string ""),
      ("filters", .object [("status", .array []), ("text", .string ""), ("count", .int 5)]),
      ("sort", .object [
        ("field", .string "users"), ("nulls", .string "last"), ("direction", .string "desc")]),
      ("errors", .array [.object [
        ("kind", .object [
          ("value", .int 1), ("kind", .string "unknown_field"), ("field", .string "host")]),
        ("severity", .object []), ("message", .string "unknown field"),
        ("startIndex", .int 13), ("endIndex", .int 19)]])]) =
    some {
      tokens := [{
        kind := .field, field := some "status", operator := some .eq, value := "open",
        negated := true, raw := "-status:open", startIndex := 0, endIndex := 12 }]
      freeText := ""
      filters := { status := some [], text := some "" }
      sort := some { field := "users", direction := .desc }
      errors := [{
        cause := .unknownField "host", message := "unknown field",
        startIndex := 13, endIndex := 19 }] } := by
  refine (queries_and_requests_read_back.1.isUnseen _ _ ?_).trans
    (queries_and_requests_read_back.1.read_write _)
  refine .object (.unknown (by decide) (.member ?tokens (.member rfl (.member ?filters
    (.member ?sort (.member ?errors .nil))))))
  case tokens =>
    exact .array (.cons (.object (.member rfl (.member rfl (.member rfl (.member rfl (.member rfl
      (.member rfl (.member rfl (.unknown (by decide) (.member rfl .nil)))))))))) .nil)
  case filters =>
    exact .object (.member rfl (.member rfl (.unknown (by decide) .nil)))
  case sort =>
    exact .object (.member rfl (.unknown (by decide) (.member rfl .nil)))
  case errors =>
    refine .array (.cons (.object (.member ?cause (.unknown (by decide) (.member rfl (.member rfl
      (.member rfl .nil)))))) .nil)
    exact .object (.unknown (by decide) (.member rfl (.member rfl .nil)))

end IssueSearch
