import IssueSearch.Proofs.Token.Removal

/-!
# Another name in a filter

A filter is found by what its name denotes.  Under another name for the same it is read
with the same operator and value, and no other token notices.

* `exists_filter_split`: a filter splits its query into a head, a body and what stands
  around them;
* `Token.respelled`: what becomes of a token when one of its query is spelled in another
  way;
* `tokenize_respelled`: the tokens of a query under another name.
-/

namespace IssueSearch

open Text (byteLength)

/-! ## The head of a filter in its query -/

/-- Only filters have the kind of a filter. -/
theorem exists_filterReading {schema : Schema} {text : List Char} {reading : Reading} {start : Nat}
    (hread : readLexeme? schema text = some reading)
    (hfilter : (reading.token start).isFilter = true) :
    ∃ head subject body, isName head.name = true ∧ schema.resolve? head.name = some subject ∧
      text = head.raw ++ body ∧ reading = filterReading head subject body := by
  cases lexemeForm hread with
  | phrase => cases hfilter
  | filter body hname hresolve => exact ⟨_, _, body, hname, hresolve, rfl, rfl⟩
  | keyword => cases hfilter
  | word => cases hfilter

/-- A filter of a query is read from a head that names something and a body behind it;
the text in front of it is settled. -/
theorem exists_filter_split (schema : Schema) (query : String) {token : Token}
    (h : token ∈ schema.tokenize query) (hfilter : token.isFilter = true) :
    ∃ before head subject body, isName head.name = true ∧
      schema.resolve? head.name = some subject ∧
      query.toList = before ++ (head.raw ++ body) ∧ IsSettled schema before ∧
      token = (filterReading head subject body).token (byteLength before) ∧
      schema.tokenize query = scanFrom schema 0 before ++
        token :: scanFrom schema token.endIndex (filterReading head subject body).rest := by
  obtain ⟨before, after, htext, hsettled, _, htokens, c, hc, hsolid⟩ :=
    exists_settled_before schema 0 query.toList token h
  have hscan : scanFrom schema (byteLength before) (token.raw.toList ++ after) =
      token :: scanFrom schema token.endIndex after := by
    have hwhole := hsettled 0 (token.raw.toList ++ after)
    rw [← htext, htokens, Nat.zero_add] at hwhole
    exact (List.append_cancel_left hwhole).symm
  obtain ⟨reading, hread⟩ : ∃ reading,
      readLexeme? schema (token.raw.toList ++ after) = some reading := by
    cases hraw : token.raw.toList with
    | nil => rw [hraw] at hc; cases hc
    | cons d raw =>
      rw [hraw] at hc
      cases hc
      exact exists_readLexeme? schema (raw ++ after) hsolid
  rw [scanFrom_of_readLexeme? _ hread] at hscan
  obtain ⟨htoken, hrest⟩ := List.cons.inj hscan
  rw [← htoken] at hfilter
  obtain ⟨head, subject, body, hname, hresolve, hbody, rfl⟩ := exists_filterReading hread hfilter
  have hparts := (readLexeme?_parts hread).1
  have hraw : token.raw.toList = (filterReading head subject body).raw := by
    rw [← htoken]
    simp [Reading.token]
  rw [hraw] at hparts
  have hafter : (filterReading head subject body).rest = after := List.append_cancel_left hparts
  refine ⟨before, head, subject, body, hname, hresolve, ?_, hsettled, htoken.symm, ?_⟩
  · rw [htext, hbody]
  · rw [hafter]
    exact htokens

/-! ## Another spelling of a filter -/

/-- The text of a filter with this name and this body, after the dash that the token may
have. -/
def Token.spelled (token : Token) (name body : String) : String :=
  (if token.negated then "-" else "") ++ name ++ ":" ++ body

theorem toList_spelled (token : Token) (name body : String) :
    (token.spelled name body).toList =
      FilterHead.raw ⟨token.negated, name.toList⟩ ++ body.toList := by
  cases hnegated : token.negated <;> simp [Token.spelled, FilterHead.raw, hnegated]

/-- A spelling has one name and one body. -/
theorem spelled_inj {token : Token} {name other body rest : String}
    (hname : isName name.toList = true) (hother : isName other.toList = true)
    (h : token.spelled name body = token.spelled other rest) : name = other ∧ body = rest := by
  have hfirst := (read?_eq_some_iff _ _ ⟨token.negated, name.toList⟩).mpr
    ⟨hname, toList_spelled token name body⟩
  have hsecond := (read?_eq_some_iff _ _ ⟨token.negated, other.toList⟩).mpr
    ⟨hother, toList_spelled token other rest⟩
  rw [h, hsecond] at hfirst
  obtain ⟨hnames, hbodies⟩ := Prod.mk.inj (Option.some.inj hfirst)
  have hsame := congrArg FilterHead.name hnames
  exact ⟨String.toList_inj.mp hsame.symm, String.toList_inj.mp hbodies.symm⟩

/-- What a token of the query becomes when `token` is spelled in another way: this one has
the new characters, and what stands behind it moves. -/
def Token.respelled (token : Token) (raw : String) (other : Token) : Token :=
  { other.move (token.shift raw.utf8ByteSize) with raw := if other = token then raw else other.raw }

/-- A token that is not spelled in another way moves at most. -/
theorem respelled_of_ne {token other : Token} (raw : String) (h : other ≠ token) :
    token.respelled raw other = other.move (token.shift raw.utf8ByteSize) := by
  rw [Token.respelled, if_neg h]
  rfl

/-- The token itself starts where it did, and it ends with its new characters. -/
theorem respelled_self {token : Token} (raw : String) (h : token.startIndex < token.endIndex) :
    token.respelled raw token =
      { token with raw, endIndex := token.startIndex + raw.utf8ByteSize } := by
  have hstart : token.shift raw.utf8ByteSize token.startIndex = token.startIndex :=
    if_neg (by omega)
  have hend : token.shift raw.utf8ByteSize token.endIndex =
      token.startIndex + raw.utf8ByteSize := by
    rw [Token.shift, if_pos (Nat.le_refl _), Nat.sub_self, Nat.add_zero]
  rw [Token.respelled, if_pos rfl, Token.move, hstart, hend]

/-- The tokens of a query with one of them spelled in another way. -/
theorem map_respelled_of_split {schema : Schema} {query : String} {before : List Token}
    {token : Token} {after : List Char} (raw : String)
    (h : schema.tokenize query = before ++ token :: scanFrom schema token.endIndex after) :
    (schema.tokenize query).map (token.respelled raw) =
      before ++ { token with raw, endIndex := token.startIndex + raw.utf8ByteSize } ::
        scanFrom schema (token.startIndex + raw.utf8ByteSize) after := by
  obtain ⟨hbefore, hafter⟩ := ne_of_split h
  obtain ⟨hpos, _⟩ := ordered_of_split h
  have hmove : ∀ tokens : List Token, (∀ other ∈ tokens, other ≠ token) →
      tokens.map (token.respelled raw) =
        tokens.map (Token.move (token.shift raw.utf8ByteSize)) := by
    intro tokens hne
    exact List.map_congr_left fun other hmem => respelled_of_ne raw (hne other hmem)
  rw [h, List.map_append, List.map_cons, hmove before hbefore, map_move_shift_of_split h,
    hmove _ hafter, scanFrom_move_shift, respelled_self raw hpos]

/-- The body of a filter is its operator, its value as it is written, and the rest. -/
theorem filterReading_body {schema : Schema} {head : FilterHead} {subject : Schema.Subject}
    (hname : isName head.name = true) (hresolve : schema.resolve? head.name = some subject)
    (body : List Char) :
    ∃ written, (∀ other : FilterHead, (filterReading other subject body).raw =
        other.raw ++ written) ∧ body = written ++ (filterReading head subject body).rest := by
  obtain ⟨hparts, _⟩ := readLexeme?_parts (readLexeme?_head hname hresolve body)
  refine ⟨Operator.leadingSymbol body ++
    (readValue (body.drop (Operator.leadingSymbol body).length)).raw, fun other => ?_, ?_⟩
  · rw [filterReading, List.append_assoc]
  · rw [filterReading, List.append_assoc, List.append_assoc] at hparts
    rw [List.append_assoc]
    exact (List.append_cancel_left hparts).symm

/-- A filter is written with a name that denotes something.  Spelled with another name for
the same, it has the same tokens in front of it and behind it, and is itself the same
filter. -/
theorem tokenize_respelled (schema : Schema) (query : String) {token : Token}
    (h : token ∈ schema.tokenize query) (hfilter : token.isFilter = true) :
    ∃ written body, isName written.toList = true ∧
      (schema.resolve? written.toList).isSome = true ∧ token.raw = token.spelled written body ∧
      ∀ name, isName name.toList = true →
        schema.resolve? name.toList = schema.resolve? written.toList →
        schema.tokenize (token.replaceIn query (token.spelled name body)) =
          (schema.tokenize query).map (token.respelled (token.spelled name body)) := by
  obtain ⟨before, head, subject, body, hname, hresolve, htext, hsettled, htoken, htokens⟩ :=
    exists_filter_split schema query h hfilter
  obtain ⟨value, hraws, hbody⟩ := filterReading_body hname hresolve body
  have hraw : token.raw.toList = head.raw ++ value := by
    rw [← hraws head, htoken]
    exact String.toList_ofList
  have hspelled : ∀ name : String, token.spelled name (String.ofList value) =
      String.ofList (filterReading ⟨head.negated, name.toList⟩ subject body).raw := by
    intro name
    have hnegated : token.negated = head.negated := by rw [htoken]; rfl
    rw [← String.toList_inj, toList_spelled, hnegated, hraws, String.toList_ofList,
      String.toList_ofList]
  refine ⟨String.ofList head.name, String.ofList value, ?_, ?_, ?_, fun name hisName hsame => ?_⟩
  · rwa [String.toList_ofList]
  · rw [String.toList_ofList, hresolve]
    rfl
  · rw [hspelled, hraws, String.toList_ofList, ← hraw, String.ofList_toList]
  · rw [String.toList_ofList, hresolve] at hsame
    have hread : readLexeme? schema (FilterHead.raw ⟨head.negated, name.toList⟩ ++ body) =
        some (filterReading ⟨head.negated, name.toList⟩ subject body) :=
      readLexeme?_head hisName hsame body
    have hscan := scanFrom_of_readLexeme? (byteLength before) hread
    rw [← (readLexeme?_parts hread).1] at hscan
    have hstart : token.startIndex = byteLength before := by rw [htoken]; rfl
    have hend : token.endIndex = byteLength (before ++ token.raw.toList) := by
      rw [Text.byteLength_append, hraw, ← hraws head, htoken]
      rfl
    have hquery : query.toList = before ++
        (token.raw.toList ++ (filterReading head subject body).rest) := by
      rw [htext, hraw, List.append_assoc, ← hbody]
    rw [Schema.tokenize, toList_replaceIn hquery hstart hend, map_respelled_of_split _ htokens,
      hspelled, String.toList_ofList, hsettled, Nat.zero_add, hstart,
      ← Text.byteLength_eq_utf8ByteSize]
    refine congrArg _ (hscan.trans ?_)
    rw [htoken]
    rfl

end IssueSearch
