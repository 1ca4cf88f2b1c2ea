import IssueSearch.Proofs.Text.Blank
import IssueSearch.Proofs.Text.Lowercase
import IssueSearch.Token.Scan

/-!
# Reading one lexeme before a seam

What a rule reads of a text does not change when a blank and more text follow.

* `isBlank_of_isNamePart`, `read?_append`, `read?_eq_some_iff`: heads of filters;
* `leadingSymbol_symbol`, `readValue_of_solid`: operators and values;
* `readFilter?_eq_some_iff`: a filter is a head and a body behind it;
* `readLexeme?_phrase`, `readLexeme?_word`, `readLexeme?_filter`: a text between
  quotes, a word and a filter are read as such;
* `readLexeme?_of_blank`, `exists_cons_of_readLexeme?`: at a blank nothing is read.
-/

namespace IssueSearch

open Text (isBlank isSolid IsSeam)

/-! ## Heads -/

/-- A digit may be part of an identifier. -/
theorem isNamePart_of_isDigit {c : Char} (h : c.isDigit = true) : isNamePart c = true := by
  simp [isNamePart, Char.isAlphanum, h]

/-- A character of an identifier is no blank. -/
theorem isBlank_of_isNamePart {c : Char} (h : isNamePart c = true) : isBlank c = false := by
  have hrange : 48 ≤ c.toNat ∧ c.toNat ≤ 122 := by
    have hkinds : (((c.isUpper || c.isLower) || c.isDigit) || c == '_') = true := h
    simp only [Bool.or_eq_true, beq_iff_eq] at hkinds
    rcases hkinds with ((hupper | hlower) | hdigit) | rfl
    · have hbounds := (Text.isUpper_iff c).mp hupper
      omega
    · have hbounds := (Text.isLower_iff c).mp hlower
      omega
    · have hbounds := Text.toNat_of_isDigit hdigit
      omega
    · decide
  simp only [isBlank, Bool.or_eq_false_iff, Bool.and_eq_false_iff, decide_eq_false_iff_not,
    beq_eq_false_iff_ne]
  omega

/-- No seam starts with a solid character. -/
theorem not_isSeam {c : Char} {rest : List Char} (hc : isBlank c = false) :
    ¬IsSeam (c :: rest) := by
  intro h
  have hblank := h c rfl
  rw [hc] at hblank
  cases hblank

/-- A name is read in the same way when a seam follows. -/
theorem readName?_append (text : List Char) {rest : List Char} (hrest : IsSeam rest) :
    FilterHead.readName? (text ++ rest) =
      (FilterHead.readName? text).map fun (name, tail) => (name, tail ++ rest) := by
  have hcolon : isBlank ':' = false := by decide
  cases hread : FilterHead.readName? text with
  | some found =>
    obtain ⟨name, tail⟩ := found
    obtain ⟨hname, rfl⟩ := (FilterHead.readName?_eq_some_iff ..).mp hread
    rw [Option.map_some, FilterHead.readName?_eq_some_iff]
    exact ⟨hname, by simp⟩
  | none =>
    rw [Option.map_none, Option.eq_none_iff_forall_ne_some]
    rintro ⟨name, tail⟩ hfound
    obtain ⟨hname, htext⟩ := (FilterHead.readName?_eq_some_iff ..).mp hfound
    -- the colon would have to stand in the text, where none is read, or in the seam
    rcases List.append_eq_append_iff.mp htext with ⟨more, hmore, htail⟩ | ⟨more, rfl, htail⟩
    · cases more with
      | nil =>
        rw [List.nil_append] at htail
        exact not_isSeam hcolon (htail ▸ hrest)
      | cons c more =>
        have hc := FilterHead.isNamePart_of_mem hname c (by simp [hmore])
        exact not_isSeam (isBlank_of_isNamePart hc) (htail ▸ hrest)
    · cases more with
      | nil =>
        rw [List.nil_append] at htail
        exact not_isSeam hcolon (htail.symm ▸ hrest)
      | cons c more =>
        obtain ⟨rfl, _⟩ := List.cons.inj htail
        have hsome := (FilterHead.readName?_eq_some_iff _ name more).mpr ⟨hname, rfl⟩
        rw [hread] at hsome
        cases hsome

/-- A head is read in the same way when a seam follows. -/
theorem read?_append (text : List Char) {rest : List Char} (hrest : IsSeam rest) :
    FilterHead.read? (text ++ rest) =
      (FilterHead.read? text).map fun (head, tail) => (head, tail ++ rest) := by
  have hplain : ∀ text : List Char, (∀ tail, text ≠ '-' :: tail) →
      FilterHead.read? text =
        (FilterHead.readName? text).map fun (name, tail) => (⟨false, name⟩, tail) := by
    intro text hdash
    unfold FilterHead.read?
    split
    · next tail => exact absurd rfl (hdash tail)
    · rfl
  have hdash : isBlank '-' = false := by decide
  by_cases htext : ∃ tail, text = '-' :: tail
  · obtain ⟨tail, rfl⟩ := htext
    simp only [List.cons_append, FilterHead.read?, readName?_append tail hrest, Option.map_map]
    rfl
  · have hnone : ∀ tail, text ++ rest ≠ '-' :: tail := by
      intro tail happend
      cases text with
      | nil => exact not_isSeam hdash ((List.nil_append rest).symm.trans happend ▸ hrest)
      | cons c text =>
        obtain ⟨rfl, _⟩ := List.cons.inj happend
        exact htext ⟨text, rfl⟩
    rw [hplain _ hnone, hplain _ fun tail h => htext ⟨tail, h⟩, readName?_append text hrest,
      Option.map_map, Option.map_map]
    rfl

/-- A head is read when, and only when, the text starts with it. -/
theorem read?_eq_some_iff (text rest : List Char) (head : FilterHead) :
    FilterHead.read? text = some (head, rest) ↔
      isName head.name = true ∧ text = head.raw ++ rest := by
  constructor
  · intro h
    refine ⟨?_, (FilterHead.read?_parts h).symm⟩
    unfold FilterHead.read? at h
    split at h <;> simp only [Option.map_eq_some_iff, Prod.exists, Prod.mk.injEq] at h
    all_goals
      obtain ⟨name, _, hread, rfl, rfl⟩ := h
      exact ((FilterHead.readName?_eq_some_iff _ _ _).mp hread).1
  · rintro ⟨hname, rfl⟩
    obtain ⟨negated, name⟩ := head
    have hread := (FilterHead.readName?_eq_some_iff (name ++ ':' :: rest) name rest).mpr
      ⟨hname, rfl⟩
    cases negated with
    | true => simp [FilterHead.raw, FilterHead.read?, hread]
    | false =>
      have htext : FilterHead.raw ⟨false, name⟩ ++ rest = name ++ ':' :: rest := by
        simp [FilterHead.raw]
      rw [htext]
      unfold FilterHead.read?
      split
      · next tail hdash =>
        have hmem : '-' ∈ name := by
          cases name with
          | nil => cases hname
          | cons c name =>
            obtain ⟨rfl, _⟩ := List.cons.inj hdash
            exact List.mem_cons_self
        have hpart := FilterHead.isNamePart_of_mem hname '-' hmem
        exact absurd hpart (by decide)
      · rw [hread]
        rfl

/-- A head starts with no quote. -/
theorem head?_raw_append_ne_quote {head : FilterHead} (hname : isName head.name = true)
    (rest : List Char) : (head.raw ++ rest).head? ≠ some '"' := by
  obtain ⟨negated, name⟩ := head
  cases negated with
  | true => simp [FilterHead.raw]
  | false =>
    cases name with
    | nil => cases hname
    | cons c name =>
      intro hquote
      have hpart := FilterHead.isNamePart_of_mem hname c List.mem_cons_self
      have hc : c = '"' := by simpa [FilterHead.raw] using hquote
      subst hc
      exact absurd hpart (by decide)

/-- A head holds a colon. -/
theorem read?_of_no_colon {text : List Char} (h : ':' ∉ text) : FilterHead.read? text = none := by
  rw [Option.eq_none_iff_forall_ne_some]
  rintro ⟨head, rest⟩ hread
  refine h ?_
  rw [← FilterHead.read?_parts hread]
  simp [FilterHead.raw]

/-! ## Operators and values -/

/-- The symbol of an operator is found before a character that is part of none. -/
theorem leadingSymbol_symbol (op : Operator) {c : Char} (rest : List Char)
    (hc : c ∉ ['>', '<', '!', '=']) :
    Operator.leadingSymbol (op.symbol.toList ++ c :: rest) = op.symbol.toList := by
  simp only [List.mem_cons, List.not_mem_nil, or_false, not_or] at hc
  obtain ⟨hgreater, hless, hbang, hequal⟩ := hc
  cases op <;> simp [Operator.symbol, Operator.leadingSymbol, hgreater, hless, hbang, hequal]

/-- A text that starts with a character of an operator starts with an operator. -/
theorem leadingSymbol_ne_nil {c : Char} (rest : List Char) (hc : c ∈ ['>', '<', '!', '=']) :
    Operator.leadingSymbol (c :: rest) ≠ [] := by
  simp only [List.mem_cons, List.not_mem_nil, or_false] at hc
  rcases hc with rfl | rfl | rfl | rfl
  all_goals
    unfold Operator.leadingSymbol
    split <;> simp_all

/-- A value without blanks is read up to the seam. -/
theorem readValue_of_solid {value rest : List Char} (hvalue : ∀ c ∈ value, isSolid c = true)
    (hquote : value.head? ≠ some '"') (hrest : IsSeam rest) :
    readValue (value ++ rest) = ⟨value, value, rest⟩ := by
  unfold readValue
  split
  · next tail htext =>
    cases value with
    | nil =>
      rw [List.nil_append] at htext
      exact absurd (htext ▸ hrest) (not_isSeam (by decide))
    | cons c value =>
      obtain ⟨rfl, _⟩ := List.cons.inj htext
      exact absurd rfl hquote
  · rw [Text.takeWhile_isSolid_append hvalue hrest, Text.dropWhile_isSolid_append hvalue hrest]

/-! ## Lexemes -/

/-- What a filter names, as the kind of its token. -/
def Schema.Subject.kind : Schema.Subject → TokenKind
  | .sort => .sort
  | .field _ => .field

/-- What a filter names, as the name of the field. -/
def Schema.Subject.name : Schema.Subject → String
  | .sort => sortKeyword
  | .field name => name

/-- A text between quotes is read as a phrase, whatever follows. -/
theorem readLexeme?_phrase (schema : Schema) {text : List Char} (rest : List Char)
    (h : '"' ∉ text) :
    readLexeme? schema ('"' :: text ++ ['"'] ++ rest) =
      some ⟨{ kind := .text, value := text }, '"' :: text ++ ['"'], rest⟩ := by
  have hall : ∀ c ∈ text, isUnquote c = true := by
    intro c hc
    have hne : c ≠ '"' := fun heq => h (heq ▸ hc)
    simp [isUnquote, hne]
  have hquote : isUnquote '"' = false := by decide
  simp [readLexeme?, readPhrase?, readQuoted, List.takeWhile_append_of_pos hall,
    List.dropWhile_append_of_pos hall, hquote]

/-- A text that starts with no quote is read as no phrase. -/
theorem readPhrase?_eq_none {text : List Char} (h : text.head? ≠ some '"') :
    readPhrase? text = none := by
  unfold readPhrase?
  split
  · exact absurd rfl h
  · rfl

/-- A word is not the keyword of an alternative unless it is spelled so. -/
theorem readOr?_eq_none {word rest : List Char} (hword : ∀ c ∈ word, isSolid c = true)
    (hne : word ≠ []) (hor : word ≠ ['O', 'R']) (hrest : IsSeam rest) :
    readOr? (word ++ rest) = none := by
  unfold readOr?
  split
  · next c tail htext =>
    obtain _ | ⟨a, word⟩ := word
    · exact absurd rfl hne
    injection htext with ha htext
    obtain _ | ⟨b, word⟩ := word
    · have hseam : IsSeam ('R' :: c :: tail) := htext ▸ hrest
      exact absurd hseam (not_isSeam (by decide))
    injection htext with hb htext
    obtain _ | ⟨d, word⟩ := word
    · rw [ha, hb] at hor
      exact absurd rfl hor
    injection htext with hc _
    have hd := (Text.isSolid_iff d).mp (hword d (by simp))
    rw [if_neg (by simp [← hc, hd])]
  · rfl

/-- A word whose head, if it has one, names nothing is no filter. -/
theorem readFilter?_eq_none {schema : Schema} (word : List Char) {rest : List Char}
    (h : ∀ head tail, FilterHead.read? word = some (head, tail) →
      schema.resolve? head.name = none) (hrest : IsSeam rest) :
    readFilter? schema (word ++ rest) = none := by
  rw [readFilter?, read?_append word hrest]
  cases hread : FilterHead.read? word with
  | none => rfl
  | some found =>
    obtain ⟨head, tail⟩ := found
    have hnone := h head tail hread
    simp [hnone]

/-- No rule reads anything at a blank. -/
theorem readLexeme?_of_blank (schema : Schema) {c : Char} (rest : List Char)
    (hc : isBlank c = true) : readLexeme? schema (c :: rest) = none := by
  have hseam := Text.isSeam_cons rest hc
  have hphrase : readPhrase? (c :: rest) = none := by
    refine readPhrase?_eq_none fun heq => ?_
    cases heq
    exact absurd hc (by decide)
  have hfilter : readFilter? schema (c :: rest) = none :=
    readFilter?_eq_none [] (fun _ _ hread => by cases hread) hseam
  have hor : readOr? (c :: rest) = none := by
    unfold readOr?
    split
    · next heq =>
      obtain ⟨rfl, _⟩ := List.cons.inj heq
      exact absurd hc (by decide)
    · rfl
  have hword : readWord? (c :: rest) = none := by
    simp [readWord?, isSolid, hc]
  rw [readLexeme?, hphrase, hfilter, hor, hword]
  rfl

/-- What a lexeme is read from starts with a solid character. -/
theorem exists_cons_of_readLexeme? {schema : Schema} {text : List Char} {reading : Reading}
    (h : readLexeme? schema text = some reading) :
    ∃ c rest, text = c :: rest ∧ isBlank c = false := by
  cases text with
  | nil =>
    have hshorter := length_rest_readLexeme?_lt h
    simp at hshorter
  | cons c rest =>
    refine ⟨c, rest, rfl, Bool.eq_false_iff.mpr fun hblank => ?_⟩
    rw [readLexeme?_of_blank schema rest hblank] at h
    cases h

/-- A word that starts with no quote and is neither a filter nor the keyword of an
alternative is read as a word. -/
theorem readLexeme?_word {schema : Schema} {word rest : List Char}
    (hword : ∀ c ∈ word, isSolid c = true) (hne : word ≠ []) (hquote : word.head? ≠ some '"')
    (hhead : ∀ head tail, FilterHead.read? word = some (head, tail) →
      schema.resolve? head.name = none)
    (hor : word ≠ ['O', 'R']) (hrest : IsSeam rest) :
    readLexeme? schema (word ++ rest) = some ⟨{ kind := .text, value := word }, word, rest⟩ := by
  have hstart : (word ++ rest).head? ≠ some '"' := by
    cases word with
    | nil => exact absurd rfl hne
    | cons c word => exact hquote
  have hread : readWord? (word ++ rest) = some ⟨{ kind := .text, value := word }, word, rest⟩ := by
    simp only [readWord?, Text.takeWhile_isSolid_append hword hrest,
      Text.dropWhile_isSolid_append hword hrest]
    rw [if_neg (by simpa using hne)]
  rw [readLexeme?, readPhrase?_eq_none hstart, readFilter?_eq_none word hhead hrest,
    readOr?_eq_none hword hne hor hrest, hread]
  rfl

/-- The filter with a head that names something and a body behind it. -/
def filterReading (head : FilterHead) (subject : Schema.Subject) (body : List Char) : Reading :=
  let symbol := Operator.leadingSymbol body
  let value := readValue (body.drop symbol.length)
  { lexeme := {
      kind := subject.kind, field := some subject.name, operator := Operator.ofSymbol? symbol,
      value := value.value, negated := head.negated }
    raw := head.raw ++ symbol ++ value.raw
    rest := value.rest }

/-- A filter is read when, and only when, the text starts with a head that names
something. -/
theorem readFilter?_eq_some_iff (schema : Schema) (text : List Char) (reading : Reading) :
    readFilter? schema text = some reading ↔
      ∃ head subject body, isName head.name = true ∧ schema.resolve? head.name = some subject ∧
        text = head.raw ++ body ∧ reading = filterReading head subject body := by
  have hfilter : ∀ head subject body, schema.resolve? head.name = some subject →
      FilterHead.read? text = some (head, body) →
      readFilter? schema text = some (filterReading head subject body) := by
    intro head subject body hresolve hread
    obtain ⟨operator, hoperator⟩ :=
      Option.isSome_iff_exists.mp (Operator.ofSymbol?_leadingSymbol_isSome body)
    rw [readFilter?]
    simp only [hread, hresolve, hoperator, Option.bind_eq_bind, Option.bind_some, filterReading]
    cases subject <;> rfl
  constructor
  · intro h
    have hhead := h
    simp only [readFilter?, Option.bind_eq_bind, Option.bind_eq_some_iff] at hhead
    obtain ⟨⟨head, body⟩, hread, subject, hresolve, _⟩ := hhead
    obtain ⟨hname, htext⟩ := (read?_eq_some_iff _ _ _).mp hread
    rw [hfilter head subject body hresolve hread] at h
    exact ⟨head, subject, body, hname, hresolve, htext, (Option.some.inj h).symm⟩
  · rintro ⟨head, subject, body, hname, hresolve, rfl, rfl⟩
    exact hfilter head subject body hresolve ((read?_eq_some_iff _ _ _).mpr ⟨hname, rfl⟩)

/-- A head that names something and its body are read as a filter. -/
theorem readLexeme?_head {schema : Schema} {head : FilterHead} {subject : Schema.Subject}
    (hname : isName head.name = true) (hresolve : schema.resolve? head.name = some subject)
    (body : List Char) :
    readLexeme? schema (head.raw ++ body) = some (filterReading head subject body) := by
  have hfilter : readFilter? schema (head.raw ++ body) =
      some (filterReading head subject body) :=
    (readFilter?_eq_some_iff _ _ _).mpr ⟨head, subject, body, hname, hresolve, rfl, rfl⟩
  rw [readLexeme?, readPhrase?_eq_none (head?_raw_append_ne_quote hname body), hfilter]
  rfl

/-- A name, an operator and a value that starts with no symbol and no quote are
read as a filter. -/
theorem readLexeme?_filter {schema : Schema} {name value rest : List Char}
    {subject : Schema.Subject} (op : Operator) (hname : isName name = true)
    (hresolve : schema.resolve? name = some subject) (hvalue : ∀ c ∈ value, isSolid c = true)
    (hstart : ∃ c ∈ value.head?, c ∉ ['>', '<', '!', '=', '"']) (hrest : IsSeam rest) :
    readLexeme? schema (name ++ ':' :: (op.symbol.toList ++ value) ++ rest) =
      some {
        lexeme := {
          kind := subject.kind, field := some subject.name, operator := some op, value }
        raw := name ++ ':' :: (op.symbol.toList ++ value)
        rest } := by
  obtain ⟨c, hc, hmem⟩ := hstart
  obtain ⟨tail, rfl⟩ : ∃ tail, value = c :: tail := by
    cases value with
    | nil => cases hc
    | cons d tail => cases hc; exact ⟨tail, rfl⟩
  have hquote : (c :: tail).head? ≠ some '"' := by
    intro heq
    cases heq
    exact hmem (by simp)
  have hsymbol : Operator.leadingSymbol (op.symbol.toList ++ (c :: tail ++ rest)) =
      op.symbol.toList := by
    rw [List.cons_append]
    exact leadingSymbol_symbol op _ fun hin => hmem (List.mem_append_left ['"'] hin)
  have htext : name ++ ':' :: (op.symbol.toList ++ (c :: tail)) ++ rest =
      FilterHead.raw ⟨false, name⟩ ++ (op.symbol.toList ++ (c :: tail ++ rest)) := by
    simp [FilterHead.raw]
  rw [htext, readLexeme?_head hname hresolve]
  simp only [filterReading, hsymbol, List.drop_left, readValue_of_solid hvalue hquote hrest,
    Operator.ofSymbol?_symbol]
  simp [FilterHead.raw]

end IssueSearch
