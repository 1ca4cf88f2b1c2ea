import IssueSearch.Proofs.Token.Part
import Mathlib.Data.List.Infix

/-!
# Where a lexeme ends

A lexeme is read from its own characters and from what follows them.  How it ends
decides what may follow: behind a closing quote anything, behind a word a blank or
nothing, and nothing at all behind a quote that is still open.

There are four groups.

* Ends.  `Ending` lists them, `Ending.Allows` says what may follow, and
  `Reading.ending` finds the end of a lexeme from its kind and its characters.
* Values and heads.  `readValue_cases` splits the values by their end, and
  `readFilter?_eq_some_iff` states a filter as a head and a body.
* Locality.  `LexemeForm` lists the forms of lexemes, and `readLexeme?_ends` is the
  one result on all of them: a lexeme is followed by what its end allows, and it is
  read before all that its end allows.
* Lexemes cut short.  `readLexeme?_of_isPrefix`: the start of a lexeme is one lexeme.
-/

namespace IssueSearch

open Text (isBlank isSolid IsSeam)

/-! ## Ends -/

/-- How a lexeme ends. -/
inductive Ending where
  /-- With its closing quote. -/
  | closed
  /-- Before a blank or the end of the text. -/
  | bare
  /-- Before the blank that makes it the keyword of an alternative. -/
  | keyword
  /-- With the text, behind an opening quote or as the word `OR`. -/
  | final
  deriving DecidableEq

/-- What may follow a lexeme that ends in this way. -/
def Ending.Allows : Ending → List Char → Prop
  | closed, _ => True
  | bare, rest => IsSeam rest
  | keyword, rest => IsSeam rest ∧ rest ≠ []
  | final, rest => rest = []

/-- Whether a value has an opening quote and no closing one. -/
def isUnclosed : List Char → Bool
  | '"' :: inner => !inner.contains '"'
  | _ => false

/-- How a value ends, as it is written. -/
def Ending.ofValue (written : List Char) : Ending :=
  if isUnclosed written then final
  else if written.head? = some '"' then closed
  else bare

/-- The value of a lexeme as it is written, with the quotes around it.  In front of
the value of a filter stand its head and its operator. -/
def writtenValue (kind : TokenKind) (raw : List Char) : List Char :=
  match kind, FilterHead.read? raw with
  | .field, some (_, body) => body.drop (Operator.leadingSymbol body).length
  | .sort, some (_, body) => body.drop (Operator.leadingSymbol body).length
  | _, _ => raw

/-- How a lexeme ends. -/
def Reading.ending (reading : Reading) : Ending :=
  if reading.lexeme.kind = .operator then .keyword
  else if reading.lexeme.kind = .text ∧ reading.raw = ['O', 'R'] then .final
  else .ofValue (writtenValue reading.lexeme.kind reading.raw)

/-- An unclosed value is read to the end of the text. -/
theorem Ending.ofValue_unclosed {inner : List Char} (h : '"' ∉ inner) :
    ofValue ('"' :: inner) = final := by
  simp [ofValue, isUnclosed, h]

/-- A value between quotes ends with the second one. -/
theorem Ending.ofValue_quoted (inner : List Char) :
    ofValue ('"' :: inner ++ ['"']) = closed := by
  simp [ofValue, isUnclosed]

/-- A value that starts with no quote ends before a blank. -/
theorem Ending.ofValue_bare {word : List Char} (h : word.head? ≠ some '"') :
    ofValue word = bare := by
  have hclosed : isUnclosed word = false := by
    unfold isUnclosed
    split
    · exact absurd rfl h
    · rfl
  simp [ofValue, hclosed, h]

/-- What may follow a lexeme depends on its first character only. -/
theorem Ending.Allows.of_head? {ending : Ending} {rest other : List Char}
    (h : ending.Allows rest) (hne : rest ≠ []) (hhead : other.head? = rest.head?) :
    ending.Allows other := by
  have hother : other ≠ [] := by
    rintro rfl
    exact hne (List.head?_eq_none_iff.mp hhead.symm)
  cases ending with
  | closed => trivial
  | bare => intro c hc; exact h c (hhead ▸ hc)
  | keyword => exact ⟨fun c hc => h.1 c (hhead ▸ hc), hother⟩
  | final => exact absurd h hne

/-- A blank may follow every lexeme that does not end with the text. -/
theorem Ending.allows_of_isSeam {ending : Ending} {rest : List Char} (h : ending ≠ final)
    (hrest : IsSeam rest) (hne : rest ≠ []) : ending.Allows rest := by
  cases ending with
  | closed => trivial
  | bare => exact hrest
  | keyword => exact ⟨hrest, hne⟩
  | final => exact absurd rfl h

/-- Where a solid character may follow, anything may follow. -/
theorem Ending.Allows.of_solid {ending : Ending} {c : Char} {rest : List Char}
    (h : ending.Allows (c :: rest)) (hc : isBlank c = false) (other : List Char) :
    ending.Allows other := by
  cases ending with
  | closed => trivial
  | bare => exact absurd h (not_isSeam hc)
  | keyword => exact absurd h.1 (not_isSeam hc)
  | final => cases h

/-- A value may stand at the end of a text. -/
theorem Ending.allows_nil_ofValue (written : List Char) : (ofValue written).Allows [] := by
  unfold ofValue
  split
  · rfl
  · split
    · trivial
    · exact Text.isSeam_nil

/-- Every lexeme but a keyword may stand at the end of a text. -/
theorem Reading.allows_nil {reading : Reading} (h : reading.lexeme.kind ≠ .operator) :
    reading.ending.Allows [] := by
  unfold Reading.ending
  split
  · next hkind => exact absurd hkind h
  · split
    · rfl
    · exact Ending.allows_nil_ofValue _

/-- The written value of a text is all of it. -/
theorem writtenValue_text (raw : List Char) : writtenValue .text raw = raw := rfl

/-! ## Values -/

/-- Behind an opening quote stand the characters up to the next quote, or there is no
other quote. -/
theorem readQuoted_cases (text : List Char) :
    ('"' ∉ text ∧ readQuoted text = ⟨'"' :: text, text, []⟩) ∨
      ∃ inner rest, text = inner ++ '"' :: rest ∧ '"' ∉ inner ∧
        readQuoted text = ⟨'"' :: inner ++ ['"'], inner, rest⟩ := by
  have hinner : '"' ∉ text.takeWhile isUnquote := by
    intro hmem
    have hall := List.all_takeWhile (p := isUnquote) (l := text)
    exact absurd (List.all_eq_true.mp hall '"' hmem) (by decide)
  have hsplit : text.takeWhile isUnquote ++ text.dropWhile isUnquote = text :=
    List.takeWhile_append_dropWhile
  cases hdrop : text.dropWhile isUnquote with
  | nil =>
    rw [hdrop, List.append_nil] at hsplit
    left
    refine ⟨hsplit ▸ hinner, ?_⟩
    simp [readQuoted, hdrop, hsplit]
  | cons c rest =>
    have hhead := List.head?_dropWhile_not isUnquote text
    have hc : c = '"' := by simpa [hdrop, isUnquote] using hhead
    subst hc
    right
    refine ⟨text.takeWhile isUnquote, rest, ?_, hinner, ?_⟩
    · rw [← hdrop, hsplit]
    · simp [readQuoted, hdrop]

/-- A value is open, closed or bare. -/
theorem readValue_cases (text : List Char) :
    (∃ inner, text = '"' :: inner ∧ '"' ∉ inner ∧ readValue text = ⟨text, inner, []⟩) ∨
      (∃ inner rest, text = '"' :: inner ++ '"' :: rest ∧ '"' ∉ inner ∧
        readValue text = ⟨'"' :: inner ++ ['"'], inner, rest⟩) ∨
      ∃ word rest, text = word ++ rest ∧ (∀ c ∈ word, isSolid c = true) ∧
        word.head? ≠ some '"' ∧ IsSeam rest ∧ readValue text = ⟨word, word, rest⟩ := by
  by_cases hquote : text.head? = some '"'
  · obtain ⟨inner, rfl⟩ : ∃ inner, text = '"' :: inner := by
      cases text with
      | nil => cases hquote
      | cons c inner => cases hquote; exact ⟨inner, rfl⟩
    rcases readQuoted_cases inner with ⟨hinner, hread⟩ | ⟨value, rest, rfl, hvalue, hread⟩
    · exact Or.inl ⟨inner, rfl, hinner, hread⟩
    · exact Or.inr (Or.inl ⟨value, rest, rfl, hvalue, hread⟩)
  · right; right
    have hsplit : text.takeWhile isSolid ++ text.dropWhile isSolid = text :=
      List.takeWhile_append_dropWhile
    have hword : ∀ c ∈ text.takeWhile isSolid, isSolid c = true := by
      intro c hc
      have hall := List.all_takeWhile (p := isSolid) (l := text)
      exact List.all_eq_true.mp hall c hc
    have hhead : (text.takeWhile isSolid).head? ≠ some '"' := by
      cases text with
      | nil => simp
      | cons c rest =>
        rw [List.takeWhile_cons]
        split
        · exact hquote
        · simp
    have hrest : IsSeam (text.dropWhile isSolid) := by
      intro c hc
      have hnot := List.head?_dropWhile_not isSolid text
      rw [hc] at hnot
      simpa [isSolid] using hnot
    refine ⟨_, _, hsplit.symm, hword, hhead, hrest, ?_⟩
    have hread := readValue_of_solid hword hhead hrest
    rwa [hsplit] at hread

/-- A value is followed by what its end allows, and before all of that it is read in
the same way. -/
theorem readValue_ends (text : List Char) :
    (Ending.ofValue (readValue text).raw).Allows (readValue text).rest ∧
      ∀ rest, (Ending.ofValue (readValue text).raw).Allows rest →
        readValue ((readValue text).raw ++ rest) = { readValue text with rest } := by
  rcases readValue_cases text with ⟨inner, rfl, hinner, hread⟩ |
    ⟨inner, tail, rfl, hinner, hread⟩ | ⟨word, tail, rfl, hword, hhead, htail, hread⟩
  · rw [hread, Ending.ofValue_unclosed hinner]
    refine ⟨rfl, fun rest hrest => ?_⟩
    cases hrest
    rw [List.append_nil, hread]
  · rw [hread, Ending.ofValue_quoted]
    refine ⟨trivial, fun rest _ => ?_⟩
    show readQuoted (inner ++ ['"'] ++ rest) = _
    have hall : ∀ c ∈ inner, isUnquote c = true := by
      intro c hc
      have hne : c ≠ '"' := fun heq => hinner (heq ▸ hc)
      simp [isUnquote, hne]
    have hquote : isUnquote '"' = false := by decide
    simp [readQuoted, List.takeWhile_append_of_pos hall, List.dropWhile_append_of_pos hall,
      hquote]
  · rw [hread, Ending.ofValue_bare hhead]
    exact ⟨htail, fun rest hrest => readValue_of_solid hword hhead hrest⟩

/-- The start of a value is read as a whole. -/
theorem rest_readValue_of_isPrefix {text part : List Char} (h : part <+: (readValue text).raw) :
    (readValue part).rest = [] := by
  have hopen : ∀ {inner : List Char}, '"' ∉ inner → part <+: '"' :: inner →
      (readValue part).rest = [] := by
    intro inner hinner hpart
    cases part with
    | nil => rfl
    | cons c part =>
      obtain ⟨rfl, htail⟩ := List.cons_prefix_cons.mp hpart
      rcases readQuoted_cases part with ⟨_, hread⟩ | ⟨value, rest, rfl, _, _⟩
      · exact congrArg ValueReading.rest hread
      · have hmem : '"' ∈ value ++ '"' :: rest := by simp
        exact absurd (htail.subset hmem) hinner
  rcases readValue_cases text with ⟨inner, rfl, hinner, hread⟩ |
    ⟨inner, tail, rfl, hinner, hread⟩ | ⟨word, tail, rfl, hword, hhead, htail, hread⟩
  · rw [hread] at h
    exact hopen hinner h
  · rw [hread] at h
    rcases List.prefix_concat_iff.mp h with rfl | hpart
    · have hwhole := (readValue_ends ('"' :: inner ++ '"' :: tail)).2 []
      rw [hread, Ending.ofValue_quoted] at hwhole
      rw [← List.append_nil ('"' :: inner ++ ['"']), hwhole trivial]
    · exact hopen hinner hpart
  · rw [hread] at h
    have hsolid : ∀ c ∈ part, isSolid c = true := fun c hc => hword c (h.subset hc)
    have hquote : part.head? ≠ some '"' := by
      cases part with
      | nil => simp
      | cons c part =>
        obtain ⟨more, rfl⟩ := h
        exact hhead
    have hwhole := readValue_of_solid hsolid hquote Text.isSeam_nil
    rw [List.append_nil] at hwhole
    rw [hwhole]

/-! ## Filters -/

/-- The operator in front of a value does not change with what follows, if that goes
on in the same way or with a character that is part of no operator. -/
theorem leadingSymbol_append (body : List Char) {rest : List Char}
    (h : ∀ c ∈ rest.head?, c ∈ (body.drop (Operator.leadingSymbol body).length).head? ∨
      c ∉ ['>', '<', '!', '=']) :
    Operator.leadingSymbol (Operator.leadingSymbol body ++ rest) =
      Operator.leadingSymbol body := by
  -- a symbol of one character does not become a longer one
  have hshort : ∀ tail, (∀ more, tail = '=' :: more → False) →
      (∀ c ∈ rest.head?, c ∈ tail.head? ∨ c ∉ ['>', '<', '!', '=']) →
      ∀ more, rest = '=' :: more → False := by
    rintro tail htail hrest more rfl
    rcases hrest '=' rfl with hhead | hnone
    · cases tail with
      | nil => cases hhead
      | cons d tail => cases hhead; exact htail tail rfl
    · simp at hnone
  generalize hsymbol : Operator.leadingSymbol body = symbol at h ⊢
  revert hsymbol
  fun_cases Operator.leadingSymbol body <;> rintro rfl
  case case1 | case2 | case3 | case7 => rfl
  case case4 tail htail => exact Operator.leadingSymbol.eq_4 rest (hshort tail htail h)
  case case5 tail htail => exact Operator.leadingSymbol.eq_5 rest (hshort tail htail h)
  case case6 tail htail => exact Operator.leadingSymbol.eq_6 rest (hshort tail htail h)
  case case8 hgreater hless hbang hequal =>
    cases rest with
    | nil => rfl
    | cons c rest =>
      have hc : c ∉ ['>', '<', '!', '='] := by
        rcases h c rfl with hhead | hnone
        · cases body with
          | nil => cases hhead
          | cons d body =>
            cases hhead
            simp only [List.mem_cons, List.not_mem_nil, or_false]
            rintro (rfl | rfl | rfl | rfl)
            · exact hgreater body rfl
            · exact hless body rfl
            · exact hbang body rfl
            · exact hequal body rfl
        · exact hnone
      exact leadingSymbol_symbol .eq rest hc

/-- No blank is part of an operator. -/
theorem not_mem_symbols_of_isBlank {c : Char} (h : isBlank c = true) :
    c ∉ ['>', '<', '!', '='] := by
  simp only [List.mem_cons, List.not_mem_nil, or_false]
  rintro (rfl | rfl | rfl | rfl) <;> exact absurd h (by decide)

/-- The body of a filter is its operator and its value, whatever its end allows to
follow. -/
theorem leadingSymbol_body (body : List Char) {rest : List Char} :
    let symbol := Operator.leadingSymbol body
    let value := readValue (body.drop symbol.length)
    (Ending.ofValue value.raw).Allows rest →
      Operator.leadingSymbol (symbol ++ (value.raw ++ rest)) = symbol := by
  intro symbol value hrest
  refine leadingSymbol_append body fun c hc => ?_
  have hparts : value.raw ++ value.rest = body.drop symbol.length := readValue_parts _
  cases hraw : value.raw with
  | nil =>
    rw [hraw] at hc hrest
    exact Or.inr (not_mem_symbols_of_isBlank (hrest c hc))
  | cons d raw =>
    rw [hraw] at hc hparts
    rw [← hparts]
    exact Or.inl hc

/-- The written value of a filter is what its value was read from. -/
theorem writtenValue_filterReading {head : FilterHead} (subject : Schema.Subject)
    (body : List Char) (hname : isName head.name = true) :
    writtenValue subject.kind (filterReading head subject body).raw =
      (readValue (body.drop (Operator.leadingSymbol body).length)).raw := by
  have hhead : FilterHead.read? (filterReading head subject body).raw =
      some (head, Operator.leadingSymbol body ++
        (readValue (body.drop (Operator.leadingSymbol body).length)).raw) := by
    rw [read?_eq_some_iff]
    exact ⟨hname, by simp [filterReading]⟩
  have hsymbol : Operator.leadingSymbol (Operator.leadingSymbol body ++
      (readValue (body.drop (Operator.leadingSymbol body).length)).raw) =
      Operator.leadingSymbol body := by
    have hbody := leadingSymbol_body body (Ending.allows_nil_ofValue _)
    rwa [List.append_nil] at hbody
  cases subject <;> simp [writtenValue, Schema.Subject.kind, hhead, hsymbol]

/-- A filter is followed by what its end allows, and before all of that it is read in
the same way. -/
theorem filterReading_ends {head : FilterHead} (subject : Schema.Subject) (body : List Char)
    (hname : isName head.name = true) :
    let reading := filterReading head subject body
    reading.ending.Allows reading.rest ∧ ∀ rest, reading.ending.Allows rest →
      ∃ more, reading.raw ++ rest = head.raw ++ more ∧
        filterReading head subject more = { reading with rest } := by
  intro reading
  have hkind : subject.kind ≠ .operator ∧ subject.kind ≠ .text := by
    cases subject <;> simp [Schema.Subject.kind]
  have hending : reading.ending =
      .ofValue (readValue (body.drop (Operator.leadingSymbol body).length)).raw := by
    rw [← writtenValue_filterReading subject body hname]
    simp [reading, Reading.ending, filterReading, hkind]
  obtain ⟨hallowed, hsame⟩ :=
    readValue_ends (body.drop (Operator.leadingSymbol body).length)
  rw [hending]
  refine ⟨hallowed, fun rest hrest => ?_⟩
  refine ⟨Operator.leadingSymbol body ++
    ((readValue (body.drop (Operator.leadingSymbol body).length)).raw ++ rest), ?_, ?_⟩
  · simp [reading, filterReading]
  · simp [filterReading, reading, leadingSymbol_body body hrest, hsame rest hrest]

/-- The start of an operator is an operator with no value. -/
theorem rest_readValue_symbol {body part : List Char} (h : part <+: Operator.leadingSymbol body) :
    (readValue (part.drop (Operator.leadingSymbol part).length)).rest = [] := by
  have hall : ∀ symbol ∈ [['>', '='], ['<', '='], ['!', '='], ['>'], ['<'], ['!'], ['='], []],
      ∀ part ∈ symbol.inits,
        (readValue (part.drop (Operator.leadingSymbol part).length)).rest = [] := by
    decide
  exact hall _ (Operator.leadingSymbol_cases body) part ((List.mem_inits _ _).mpr h)

/-- The start of a filter behind its head is one filter. -/
theorem rest_filterReading_of_isPrefix {head : FilterHead} {subject : Schema.Subject}
    {body part : List Char} (h : head.raw ++ part <+: (filterReading head subject body).raw) :
    (filterReading head subject part).rest = [] := by
  have hvalue : (readValue (body.drop (Operator.leadingSymbol body).length)).raw ++
      (readValue (body.drop (Operator.leadingSymbol body).length)).rest =
      body.drop (Operator.leadingSymbol body).length := readValue_parts _
  obtain ⟨more, hmore⟩ : part <+: Operator.leadingSymbol body ++
      (readValue (body.drop (Operator.leadingSymbol body).length)).raw := by
    rwa [filterReading, List.append_assoc, List.prefix_append_right_inj] at h
  -- the part ends inside the operator or behind it
  rcases List.append_eq_append_iff.mp hmore with ⟨inner, hsymbol, _⟩ | ⟨inner, rfl, hinner⟩
  · exact rest_readValue_symbol ⟨inner, hsymbol.symm⟩
  · have hsymbol : Operator.leadingSymbol (Operator.leadingSymbol body ++ inner) =
        Operator.leadingSymbol body := by
      refine leadingSymbol_append body fun c hc => ?_
      left
      rw [← hvalue, hinner]
      cases inner with
      | nil => cases hc
      | cons d inner => exact hc
    rw [filterReading, hsymbol, List.drop_left]
    exact rest_readValue_of_isPrefix ⟨more, hinner.symm⟩

/-! ## Words -/

/-- What a head names nothing by is no filter. -/
theorem resolve?_eq_none {schema : Schema} {text body : List Char} {head : FilterHead}
    (hfilter : readFilter? schema text = none)
    (hread : FilterHead.read? text = some (head, body)) : schema.resolve? head.name = none := by
  obtain ⟨hname, htext⟩ := (read?_eq_some_iff _ _ _).mp hread
  cases hresolve : schema.resolve? head.name with
  | none => rfl
  | some subject =>
    have hsome := (readFilter?_eq_some_iff schema text _).mpr
      ⟨head, subject, body, hname, hresolve, htext, rfl⟩
    rw [hfilter] at hsome
    cases hsome

/-- A word that is read starts with no quote and ends before a seam. -/
theorem exists_word {text : List Char} {reading : Reading} (hphrase : readPhrase? text = none)
    (h : readWord? text = some reading) :
    ∃ word rest, text = word ++ rest ∧ word ≠ [] ∧ (∀ c ∈ word, isSolid c = true) ∧
      word.head? ≠ some '"' ∧ IsSeam rest ∧
      reading = ⟨{ kind := .text, value := word }, word, rest⟩ := by
  rcases readValue_cases text with ⟨inner, rfl, _⟩ | ⟨inner, tail, rfl, _⟩ |
    ⟨word, rest, rfl, hword, hhead, hrest, _⟩
  · cases hphrase
  · cases hphrase
  · refine ⟨word, rest, rfl, ?_⟩
    simp only [readWord?, Text.takeWhile_isSolid_append hword hrest,
      Text.dropWhile_isSolid_append hword hrest] at h
    split at h
    · cases h
    · next hne =>
      exact ⟨by simpa using hne, hword, hhead, hrest, (Option.some.inj h).symm⟩

/-! ## Lexemes -/

/-- The four forms of lexemes: the text from which each is read, and what is read. -/
inductive LexemeForm (schema : Schema) : List Char → Reading → Prop where
  | phrase (inner) :
      LexemeForm schema ('"' :: inner) ⟨{ kind := .text, value := (readQuoted inner).value },
        (readQuoted inner).raw, (readQuoted inner).rest⟩
  | filter {head subject} (body) (hname : isName head.name = true)
      (hresolve : schema.resolve? head.name = some subject) :
      LexemeForm schema (head.raw ++ body) (filterReading head subject body)
  | keyword {c} (rest) (hc : isBlank c = true) :
      LexemeForm schema ('O' :: 'R' :: c :: rest)
        ⟨{ kind := .operator, value := ['O', 'R'] }, ['O', 'R'], c :: rest⟩
  /-- A word that would be the keyword stands at the end of the text. -/
  | word {word rest} (hword : ∀ c ∈ word, isSolid c = true) (hne : word ≠ [])
      (hquote : word.head? ≠ some '"')
      (hnames : ∀ head tail, FilterHead.read? word = some (head, tail) →
        schema.resolve? head.name = none)
      (hrest : IsSeam rest) (hkeyword : word = ['O', 'R'] → rest = []) :
      LexemeForm schema (word ++ rest) ⟨{ kind := .text, value := word }, word, rest⟩

/-- Every lexeme has one of the four forms. -/
theorem lexemeForm {schema : Schema} {text : List Char} {reading : Reading}
    (h : readLexeme? schema text = some reading) : LexemeForm schema text reading := by
  rcases readLexeme?_cases h with hrule | ⟨_, hrule⟩ | ⟨_, _, hrule⟩ |
    ⟨hphrase, hfilter, hor, hrule⟩
  · unfold readPhrase? at hrule
    split at hrule
    · cases hrule
      exact .phrase _
    · cases hrule
  · obtain ⟨head, subject, body, hname, hresolve, rfl, rfl⟩ :=
      (readFilter?_eq_some_iff _ _ _).mp hrule
    exact .filter body hname hresolve
  · unfold readOr? at hrule
    split at hrule
    · split at hrule
      · next hc =>
        cases hrule
        exact .keyword _ hc
      · cases hrule
    · cases hrule
  · obtain ⟨word, rest, rfl, hne, hword, hquote, hrest, rfl⟩ := exists_word hphrase hrule
    refine .word hword hne hquote (fun head tail hread => ?_) hrest fun hkeyword => ?_
    · have hwhole : FilterHead.read? (word ++ rest) = some (head, tail ++ rest) := by
        rw [read?_append word hrest, hread]
        rfl
      exact resolve?_eq_none hfilter hwhole
    · subst hkeyword
      cases rest with
      | nil => rfl
      | cons c rest => simp [readOr?, hrest c rfl] at hor

/-- A phrase is followed by what its end allows, and before all of that it is read in
the same way. -/
theorem readQuoted_ends (schema : Schema) (inner : List Char) :
    let phrase := readQuoted inner
    let reading : Reading := ⟨{ kind := .text, value := phrase.value }, phrase.raw, phrase.rest⟩
    reading.ending.Allows reading.rest ∧ ∀ rest, reading.ending.Allows rest →
      readLexeme? schema (reading.raw ++ rest) = some { reading with rest } := by
  intro phrase reading
  obtain ⟨hallowed, hsame⟩ := readValue_ends ('"' :: inner)
  have hending : reading.ending = .ofValue (readValue ('"' :: inner)).raw := by
    simp [reading, phrase, Reading.ending, readQuoted, writtenValue_text, readValue]
  rw [hending]
  refine ⟨hallowed, fun rest hrest => ?_⟩
  obtain ⟨other, hother⟩ : ∃ other, phrase.raw ++ rest = '"' :: other := ⟨_, rfl⟩
  have hread : readQuoted other = { phrase with rest } := by
    have hvalue : readValue (phrase.raw ++ rest) = _ := hsame rest hrest
    rwa [hother] at hvalue
  show readLexeme? schema (phrase.raw ++ rest) = _
  rw [hother]
  show some (Reading.mk { kind := .text, value := (readQuoted other).value }
    (readQuoted other).raw (readQuoted other).rest) = _
  rw [hread]

/-- A lexeme is followed by what its end allows, and before all of that it is read in
the same way. -/
theorem readLexeme?_ends {schema : Schema} {text : List Char} {reading : Reading}
    (h : readLexeme? schema text = some reading) :
    reading.ending.Allows reading.rest ∧ ∀ rest, reading.ending.Allows rest →
      readLexeme? schema (reading.raw ++ rest) = some { reading with rest } := by
  cases lexemeForm h with
  | phrase inner => exact readQuoted_ends schema inner
  | @filter head subject body hname hresolve =>
    obtain ⟨hallowed, hsame⟩ := filterReading_ends subject body hname
    refine ⟨hallowed, fun rest hrest => ?_⟩
    obtain ⟨more, htext, hmore⟩ := hsame rest hrest
    rw [htext, readLexeme?_head hname hresolve, hmore]
  | keyword tail hc =>
    refine ⟨⟨Text.isSeam_cons tail hc, by simp⟩, fun rest hrest => ?_⟩
    obtain ⟨hseam, hne⟩ := hrest
    have hnone : readFilter? schema (['O', 'R'] ++ rest) = none :=
      readFilter?_eq_none ['O', 'R'] (fun _ _ hread => by cases hread) hseam
    obtain ⟨d, rest, rfl⟩ := List.exists_cons_of_ne_nil hne
    have hd := hseam d rfl
    rw [readLexeme?, hnone]
    simp [readPhrase?, readOr?, hd]
  | @word word rest hword hne hquote hnames hrest hkeyword =>
    by_cases hor : word = ['O', 'R']
    · -- the word is no keyword, so nothing follows it
      obtain rfl := hkeyword hor
      have hending : Reading.ending ⟨{ kind := .text, value := word }, word, []⟩ = .final := by
        simp [Reading.ending, hor]
      rw [hending]
      refine ⟨rfl, fun rest hnothing => ?_⟩
      rw [show rest = [] from hnothing]
      exact h
    · have hending : Reading.ending ⟨{ kind := .text, value := word }, word, rest⟩ = .bare := by
        simp [Reading.ending, hor, writtenValue_text, Ending.ofValue_bare hquote]
      rw [hending]
      exact ⟨hrest, fun rest hrest => readLexeme?_word hword hne hquote hnames hor hrest⟩

/-! ## Lexemes cut short -/

/-- A word by itself is one lexeme, the word `OR` too. -/
theorem readLexeme?_solid {schema : Schema} {word : List Char}
    (hword : ∀ c ∈ word, isSolid c = true) (hne : word ≠ []) (hquote : word.head? ≠ some '"')
    (hnames : ∀ head tail, FilterHead.read? word = some (head, tail) →
      schema.resolve? head.name = none) :
    ∃ lexeme, readLexeme? schema word = some ⟨lexeme, word, []⟩ := by
  by_cases hkeyword : word = ['O', 'R']
  · subst hkeyword
    exact ⟨_, rfl⟩
  · have hread := readLexeme?_word hword hne hquote hnames hkeyword Text.isSeam_nil
    rw [List.append_nil] at hread
    exact ⟨_, hread⟩

/-- A word without a colon is one lexeme by itself. -/
theorem readLexeme?_plain (schema : Schema) {word : List Char}
    (hword : ∀ c ∈ word, isSolid c = true) (hne : word ≠ []) (hquote : word.head? ≠ some '"')
    (hcolon : ':' ∉ word) : ∃ lexeme, readLexeme? schema word = some ⟨lexeme, word, []⟩ := by
  refine readLexeme?_solid hword hne hquote fun head tail hread => ?_
  rw [read?_of_no_colon hcolon] at hread
  cases hread

/-- The start of a head without its colon is one word. -/
theorem readLexeme?_head_of_isPrefix (schema : Schema) {head : FilterHead} {part more : List Char}
    (hname : isName head.name = true) (hhead : head.raw = part ++ more) (hmore : more ≠ [])
    (hne : part ≠ []) : ∃ lexeme, readLexeme? schema part = some ⟨lexeme, part, []⟩ := by
  have hpart : part <+: (if head.negated then ['-'] else []) ++ head.name := by
    have hprefix : part <+: (if head.negated then ['-'] else []) ++ head.name ++ [':'] :=
      ⟨more, hhead.symm⟩
    rcases List.prefix_concat_iff.mp hprefix with hwhole | hpart
    · exact absurd (List.self_eq_append_right.mp (hwhole.trans hhead)) hmore
    · exact hpart
  have hchars : ∀ c ∈ part, isSolid c = true ∧ c ≠ ':' := by
    intro c hc
    rcases List.mem_append.mp (hpart.subset hc) with hdash | hmem
    · have hc : c = '-' := by
        by_cases hnegated : head.negated = true <;> simp [hnegated] at hdash
        exact hdash
      subst hc
      decide
    · have hnamed := FilterHead.isNamePart_of_mem hname c hmem
      refine ⟨(Text.isSolid_iff c).mpr (isBlank_of_isNamePart hnamed), ?_⟩
      rintro rfl
      exact absurd hnamed (by decide)
  have hquote : part.head? ≠ some '"' := by
    have hraw := head?_raw_append_ne_quote hname []
    rw [List.append_nil, hhead, List.head?_append_of_ne_nil _ hne] at hraw
    exact hraw
  exact readLexeme?_plain schema (fun c hc => (hchars c hc).1) hne hquote
    fun hc => (hchars ':' hc).2 rfl

/-- The start of a lexeme is one lexeme by itself. -/
theorem readLexeme?_of_isPrefix {schema : Schema} {text part : List Char} {reading : Reading}
    (h : readLexeme? schema text = some reading) (hpart : part <+: reading.raw)
    (hne : part ≠ []) : ∃ lexeme, readLexeme? schema part = some ⟨lexeme, part, []⟩ := by
  have hwhole : ∀ other, readLexeme? schema part = some other → other.rest = [] →
      ∃ lexeme, readLexeme? schema part = some ⟨lexeme, part, []⟩ := by
    intro other hread hrest
    have hparts := (readLexeme?_parts hread).1
    rw [hrest, List.append_nil] at hparts
    refine ⟨other.lexeme, ?_⟩
    rw [hread, ← hparts, ← hrest]
  cases lexemeForm h with
  | phrase inner =>
    cases part with
    | nil => exact absurd rfl hne
    | cons c part =>
      obtain ⟨rfl, _⟩ := List.cons_prefix_cons.mp hpart
      have hquoted : '"' :: part <+: (readValue ('"' :: inner)).raw := hpart
      exact hwhole _ rfl (rest_readValue_of_isPrefix hquoted)
  | @filter head subject body hname hresolve =>
    obtain ⟨more, hmore⟩ := hpart
    have hraw : part ++ more = head.raw ++ (Operator.leadingSymbol body ++
        (readValue (body.drop (Operator.leadingSymbol body).length)).raw) := by
      rw [hmore, filterReading, List.append_assoc]
    rcases List.append_eq_append_iff.mp hraw with ⟨inner, hhead, _⟩ | ⟨inner, rfl, hinner⟩
    · by_cases hinner : inner = []
      · -- the part is the head
        subst hinner
        rw [List.append_nil] at hhead
        have hread := readLexeme?_head hname hresolve []
        rw [List.append_nil, hhead] at hread
        exact hwhole _ hread rfl
      · exact readLexeme?_head_of_isPrefix schema hname hhead hinner hne
    · exact hwhole _ (readLexeme?_head hname hresolve inner)
        (rest_filterReading_of_isPrefix ⟨more, hmore⟩)
  | keyword rest hc =>
    have hchars : ∀ c ∈ part, c = 'O' ∨ c = 'R' := by
      intro c hc
      simpa using hpart.subset hc
    have hsolid : ∀ c ∈ part, isSolid c = true := by
      intro c hc
      rcases hchars c hc with rfl | rfl <;> decide
    have hquote : part.head? ≠ some '"' := by
      intro hhead
      rcases hchars '"' (List.mem_of_head? hhead) with h | h <;> cases h
    have hcolon : ':' ∉ part := by
      intro hmem
      rcases hchars ':' hmem with h | h <;> cases h
    exact readLexeme?_plain schema hsolid hne hquote hcolon
  | word hword _ hquote hnames =>
    obtain ⟨more, rfl⟩ := hpart
    refine readLexeme?_solid (fun c hc => hword c (List.mem_append_left more hc)) hne ?_ ?_
    · rwa [List.head?_append_of_ne_nil _ hne] at hquote
    · intro head tail hread
      obtain ⟨hname, rfl⟩ := (read?_eq_some_iff _ _ _).mp hread
      refine hnames head (tail ++ more) ?_
      rw [read?_eq_some_iff]
      exact ⟨hname, by simp⟩

end IssueSearch
