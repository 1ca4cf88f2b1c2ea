import IssueSearch.Proofs.Token.Locality

/-!
# The tokens of a query that is being typed

The start of a query has the tokens of the query that have ended there and one token
for what is still being typed.

* `Token.isKeptAt`, `Token.isCutAt`: a token that ends before a place, and one that the
  place cuts short;
* `typed_cases`: a cut lies in a gap, in a lexeme or behind it;
* `IsTypedAt`: the tokens up to a place, with one lemma for each of these cases;
* `tokenize_typed`: the start of a query up to any boundary.
-/

namespace IssueSearch

open Text (isBlank byteLength)

/-! ## Tokens at a cut -/

/-- Whether a token stays as it is when the query ends at a place.  The keyword of an
alternative is one only before a blank. -/
def Token.isKeptAt (place : Nat) (token : Token) : Bool :=
  token.endIndex < place || (token.endIndex == place && token.kind != .operator)

/-- Whether a token is still being typed when the query ends at a place. -/
def Token.isCutAt (place : Nat) (token : Token) : Bool :=
  (token.startIndex < place && place < token.endIndex) ||
    (token.kind == .operator && token.endIndex == place)

theorem Token.isKeptAt_iff {place : Nat} {token : Token} :
    token.isKeptAt place = true ↔
      token.endIndex < place ∨ token.endIndex = place ∧ token.kind ≠ .operator := by
  simp [isKeptAt]

theorem Token.isCutAt_iff {place : Nat} {token : Token} :
    token.isCutAt place = true ↔
      token.startIndex < place ∧ place < token.endIndex ∨
        token.kind = .operator ∧ token.endIndex = place := by
  simp [isCutAt]

/-- The tokens of a text up to a place: those that have ended, and one more for each
that is cut short, from its start to the place. -/
def IsTypedAt (place : Nat) (typed whole : List Token) : Prop :=
  ∃ last, typed = whole.filter (·.isKeptAt place) ++ last ∧
    last.map (fun token => (token.startIndex, token.endIndex)) =
      (whole.filter (·.isCutAt place)).map fun token => (token.startIndex, place)

/-- A token that starts at the place or behind it is no part of what was typed. -/
theorem eq_false_of_le {place : Nat} {token : Token} (h : place ≤ token.startIndex)
    (hpos : token.startIndex < token.endIndex) :
    token.isKeptAt place = false ∧ token.isCutAt place = false := by
  have hbefore : ¬token.endIndex < place := by omega
  have hat : ¬token.endIndex = place := by omega
  have hstart : ¬token.startIndex < place := by omega
  simp [Token.isKeptAt, Token.isCutAt, hbefore, hat, hstart]

/-- Tokens behind the place add nothing to what was typed. -/
theorem isTypedAt_append_right {schema : Schema} {place start : Nat} {typed whole : List Token}
    (h : IsTypedAt place typed whole) (hplace : place ≤ start) (text : List Char) :
    IsTypedAt place typed (whole ++ scanFrom schema start text) := by
  have hbehind : ∀ token ∈ scanFrom schema start text,
      token.isKeptAt place = false ∧ token.isCutAt place = false := by
    intro token hmem
    obtain ⟨hstart, hpos⟩ := (isAt_of_mem_scanFrom schema start text token hmem).bounds
    exact eq_false_of_le (by omega) hpos
  have hkept : (scanFrom schema start text).filter (·.isKeptAt place) = [] := by
    rw [List.filter_eq_nil_iff]
    intro token hmem
    simp [(hbehind token hmem).1]
  have hcut : (scanFrom schema start text).filter (·.isCutAt place) = [] := by
    rw [List.filter_eq_nil_iff]
    intro token hmem
    simp [(hbehind token hmem).2]
  unfold IsTypedAt at h ⊢
  rwa [List.filter_append, List.filter_append, hkept, hcut, List.append_nil, List.append_nil]

/-- Nothing was typed. -/
theorem isTypedAt_nil (place : Nat) : IsTypedAt place [] [] :=
  ⟨[], rfl, rfl⟩

/-- A token that has ended was typed as it is. -/
theorem IsTypedAt.cons {place : Nat} {typed whole : List Token} {token : Token}
    (h : IsTypedAt place typed whole) (hkept : token.isKeptAt place = true) :
    IsTypedAt place (token :: typed) (token :: whole) := by
  have hcut : ¬token.isCutAt place = true := by
    rw [Token.isCutAt_iff]
    rcases Token.isKeptAt_iff.mp hkept with hbefore | ⟨hat, hkind⟩
    · omega
    · rintro (⟨_, hafter⟩ | ⟨hoperator, _⟩)
      · omega
      · exact hkind hoperator
  obtain ⟨last, htyped, hlast⟩ := h
  refine ⟨last, ?_, ?_⟩
  · rw [htyped, List.filter_cons_of_pos hkept, List.cons_append]
  · rw [hlast, List.filter_cons_of_neg hcut]

/-- A token that is cut short was typed up to the place. -/
theorem isTypedAt_singleton {place : Nat} {token part : Token} (hcut : token.isCutAt place = true)
    (hkept : ¬token.isKeptAt place = true) (hstart : part.startIndex = token.startIndex)
    (hend : part.endIndex = place) : IsTypedAt place [part] [token] := by
  refine ⟨[part], ?_, ?_⟩
  · simp [hkept]
  · simp [hcut, hstart, hend]

/-! ## Where a text is cut -/

/-- A cut through blanks, a lexeme and what follows lies in the blanks, in the lexeme
or behind it.  The end of a keyword still is in the lexeme. -/
theorem typed_cases {gap raw rest typed more : List Char} (keyword : Prop)
    (h : gap ++ (raw ++ rest) = typed ++ more) :
    typed <+: gap ∨
      (∃ part, typed = gap ++ part ∧ part ≠ [] ∧ part <+: raw ∧ (part = raw → keyword)) ∨
      ∃ tail, typed = gap ++ (raw ++ tail) ∧ rest = tail ++ more ∧ (tail = [] → ¬keyword) := by
  rcases List.append_eq_append_iff.mp h with ⟨part, rfl, hpart⟩ | ⟨inner, hgap, _⟩
  · by_cases hnil : part = []
    · left
      simp [hnil]
    by_cases hwhole : part = raw
    · subst hwhole
      have hrest : rest = more := List.append_cancel_left hpart
      by_cases hkeyword : keyword
      · right; left
        exact ⟨part, rfl, hnil, List.prefix_refl part, fun _ => hkeyword⟩
      · right; right
        exact ⟨[], by simp, by simp [hrest], fun _ => hkeyword⟩
    · rcases List.append_eq_append_iff.mp hpart with ⟨tail, rfl, htail⟩ | ⟨inner, hraw, _⟩
      · right; right
        exact ⟨tail, rfl, htail, fun htail => absurd (by simp [htail]) hwhole⟩
      · right; left
        exact ⟨part, rfl, hnil, ⟨inner, hraw.symm⟩, fun hpart => absurd hpart hwhole⟩
  · left
    exact ⟨inner, hgap.symm⟩

/-- The start of a part has no more bytes than the part. -/
theorem byteLength_le_of_isPrefix {part text : List Char} (h : part <+: text) :
    byteLength part ≤ byteLength text := by
  obtain ⟨more, rfl⟩ := h
  rw [Text.byteLength_append]
  omega

/-- A lexeme that is cut short is one token, up to the cut. -/
theorem scanFrom_part {schema : Schema} (start : Nat) {gap text part : List Char}
    {reading : Reading} (hgap : ∀ c ∈ gap, isBlank c = true)
    (hread : readLexeme? schema text = some reading) (hpart : part <+: reading.raw)
    (hne : part ≠ []) :
    ∃ token, scanFrom schema start (gap ++ part) = [token] ∧
      token.startIndex = start + byteLength gap ∧
      token.endIndex = start + byteLength (gap ++ part) := by
  obtain ⟨lexeme, hlexeme⟩ := readLexeme?_of_isPrefix hread hpart hne
  have hscan := scanFrom_of_allows start hgap hlexeme (readLexeme?_ends hlexeme).1
  rw [List.append_nil, scanFrom_of_blank schema (_ + _) (by simp)] at hscan
  refine ⟨_, hscan, rfl, ?_⟩
  rw [Text.byteLength_append, ← Nat.add_assoc]
  rfl

/-- The start of a text has the tokens of the text up to its end. -/
theorem isTypedAt_scanFrom (schema : Schema) (start : Nat) (text : List Char) :
    ∀ typed more, text = typed ++ more →
      IsTypedAt (start + byteLength typed) (scanFrom schema start typed)
        (scanFrom schema start text) := by
  refine scanFrom_induction schema
    (motive := fun start text _ => ∀ typed more, text = typed ++ more →
      IsTypedAt (start + byteLength typed) (scanFrom schema start typed)
        (scanFrom schema start text))
    ?_ ?_ start text
  · intro start text hblank typed more htext
    have htyped : ∀ c ∈ typed, isBlank c = true := fun c hc =>
      hblank c (htext ▸ List.mem_append_left more hc)
    rw [scanFrom_of_blank schema start htyped, scanFrom_of_blank schema start hblank]
    exact isTypedAt_nil _
  · intro start gap c rest reading tokens hgap hc hread ih typed more htext
    obtain ⟨hparts, _⟩ := readLexeme?_parts hread
    have hscan := scanFrom_of_read start hgap hc hread
    rw [← hparts] at htext
    rcases typed_cases (reading.lexeme.kind = .operator) htext with
      htyped | ⟨part, rfl, hne, hpart, hkeyword⟩ | ⟨tail, rfl, htail, hkeyword⟩
    · -- only blanks were typed
      have hblank : ∀ c ∈ typed, isBlank c = true := fun c hc => hgap c (htyped.subset hc)
      have hplace := byteLength_le_of_isPrefix htyped
      rw [scanFrom_of_blank schema start hblank, scanFrom_gap schema start hgap]
      exact isTypedAt_append_right (isTypedAt_nil _) (by omega) (c :: rest)
    · -- the lexeme is cut short
      obtain ⟨token, htoken, hstart, hend⟩ := scanFrom_part start hgap hread hpart hne
      have hplace := byteLength_le_of_isPrefix hpart
      have hpos := Text.byteLength_pos hne
      rw [htoken, hscan, Text.byteLength_append]
      rw [Text.byteLength_append] at hend
      have hbefore : byteLength part < byteLength reading.raw ∨
          byteLength part = byteLength reading.raw ∧ reading.lexeme.kind = .operator := by
        obtain ⟨inner, hinner⟩ := hpart
        by_cases hnil : inner = []
        · rw [hnil, List.append_nil] at hinner
          exact Or.inr ⟨congrArg byteLength hinner, hkeyword hinner⟩
        · have hmore := Text.byteLength_pos hnil
          rw [← hinner, Text.byteLength_append]
          omega
      refine isTypedAt_append_right (isTypedAt_singleton ?_ ?_ hstart hend) (by omega)
        reading.rest
      · rw [Token.isCutAt_iff]
        simp only [Reading.token]
        rcases hbefore with hless | ⟨heq, hkind⟩
        · left
          omega
        · right
          exact ⟨hkind, by omega⟩
      · rw [Token.isKeptAt_iff]
        simp only [Reading.token]
        rcases hbefore with hless | ⟨heq, hkind⟩
        · omega
        · rintro (hbehind | ⟨_, hother⟩)
          · omega
          · exact hother hkind
    · -- the lexeme was typed as it is
      have hrest := (readLexeme?_ends hread).1
      have hallows : reading.ending.Allows tail := by
        by_cases hnil : tail = []
        · rw [hnil]
          exact Reading.allows_nil (hkeyword hnil)
        · refine hrest.of_head? (by simp [htail, hnil]) ?_
          rw [htail, List.head?_append_of_ne_nil _ hnil]
      have hplace : start + byteLength (gap ++ (reading.raw ++ tail)) =
          start + byteLength gap + byteLength reading.raw + byteLength tail := by
        rw [Text.byteLength_append, Text.byteLength_append]
        omega
      rw [scanFrom_of_allows start hgap hread hallows, hscan, hplace]
      refine (ih tail more htail).cons ?_
      rw [Token.isKeptAt_iff]
      simp only [Reading.token]
      by_cases hnil : tail = []
      · right
        exact ⟨by simp [hnil, byteLength], hkeyword hnil⟩
      · left
        have hpos := Text.byteLength_pos hnil
        omega

/-! ## The start of a query -/

/-- At most one token is cut short. -/
theorem filter_isCutAt (schema : Schema) (start place : Nat) (text : List Char) :
    ∀ token ∈ scanFrom schema start text, token.isCutAt place = true →
      (scanFrom schema start text).filter (·.isCutAt place) = [token] := by
  intro token hmem hcut
  have hbounds : ∀ found ∈ (scanFrom schema start text).filter (·.isCutAt place),
      found.startIndex < place ∧ place ≤ found.endIndex := by
    intro found hfound
    obtain ⟨hscanned, hfoundCut⟩ := List.mem_filter.mp hfound
    obtain ⟨_, hpos⟩ := (isAt_of_mem_scanFrom schema start text found hscanned).bounds
    rcases Token.isCutAt_iff.mp hfoundCut with hinside | ⟨_, hend⟩ <;> omega
  have hlength : ((scanFrom schema start text).filter (·.isCutAt place)).length ≤ 1 := by
    refine length_le_one_of_pairwise ((pairwise_scanFrom schema start text).filter _) ?_
    intro first hfirst second hsecond
    have hend := (hbounds first hfirst).2
    have hstart := (hbounds second hsecond).1
    omega
  have hfiltered := List.mem_filter.mpr ⟨hmem, hcut⟩
  have hpos := List.length_pos_of_mem hfiltered
  obtain ⟨only, honly⟩ := List.length_eq_one_iff.mp (Nat.le_antisymm hlength hpos)
  rw [honly] at hfiltered ⊢
  rw [List.mem_singleton.mp hfiltered]

/-- Up to a boundary, a query has the tokens that end there, all of them unchanged but
a keyword that ends at the boundary, and one token more if the boundary cuts one: it
goes from the start of that token to the boundary. -/
theorem tokenize_typed (schema : Schema) (query : String) (place : Nat)
    (h : String.Pos.Raw.IsValid query ⟨place⟩) :
    ∃ last, schema.tokenize (String.Pos.Raw.extract query ⟨0⟩ ⟨place⟩) =
        (schema.tokenize query).filter (·.isKeptAt place) ++ last ∧
      (∀ token ∈ schema.tokenize query, token.isCutAt place = true →
        ∃ part, last = [part] ∧ part.startIndex = token.startIndex ∧ part.endIndex = place) ∧
      ((∀ token ∈ schema.tokenize query, token.isCutAt place = false) → last = []) := by
  obtain ⟨typed, more, hquery, hplace, hslice⟩ := Text.exists_append_of_isValid h
  obtain ⟨last, hscan, hspans⟩ := isTypedAt_scanFrom schema 0 query.toList typed more hquery
  rw [Nat.zero_add, hplace] at hscan hspans
  refine ⟨last, ?_, ?_, ?_⟩
  · rw [hslice, Schema.tokenize, String.toList_ofList, hscan]
    rfl
  · intro token hmem hcut
    rw [filter_isCutAt schema 0 place query.toList token hmem hcut] at hspans
    obtain ⟨part, rfl, hpart⟩ := List.map_eq_singleton_iff.mp hspans
    exact ⟨part, rfl, congrArg Prod.fst hpart, congrArg Prod.snd hpart⟩
  · intro hnone
    have hnil : (scanFrom schema 0 query.toList).filter (·.isCutAt place) = [] := by
      rw [List.filter_eq_nil_iff]
      intro token hmem
      simp [hnone token hmem]
    rw [hnil] at hspans
    exact List.map_eq_nil_iff.mp hspans

/-- A quoted value is cut behind a letter of two bytes: the token in front of it stays,
and the filter goes up to the cut. -/
theorem tokenize_typed_quoted :
    String.Pos.Raw.IsValid "is:resolved title:\"né OR\" OR x" ⟨22⟩ ∧
      ∃ last, Schema.standard.tokenize
          (String.Pos.Raw.extract "is:resolved title:\"né OR\" OR x" ⟨0⟩ ⟨22⟩) =
          (Schema.standard.tokenize "is:resolved title:\"né OR\" OR x").filter
            (·.isKeptAt 22) ++ [last] ∧
        last.startIndex = 12 ∧ last.endIndex = 22 := by
  have hvalid : String.Pos.Raw.IsValid "is:resolved title:\"né OR\" OR x" ⟨22⟩ := by decide
  have hcut : (Schema.standard.tokenize "is:resolved title:\"né OR\" OR x").any
      (fun token => token.isCutAt 22 && token.startIndex == 12) = true := by
    decide +kernel
  obtain ⟨token, hmem, htoken⟩ := List.any_eq_true.mp hcut
  rw [Bool.and_eq_true, beq_iff_eq] at htoken
  obtain ⟨last, htyped, hlast, _⟩ :=
    tokenize_typed Schema.standard "is:resolved title:\"né OR\" OR x" 22 hvalid
  obtain ⟨part, rfl, hstart, hend⟩ := hlast token hmem htoken.1
  exact ⟨hvalid, part, htyped, hstart.trans htoken.2, hend⟩

end IssueSearch
