import IssueSearch.Proofs.Query.Removal
import IssueSearch.Proofs.Token.Grammar

/-!
# Words on unknown fields

A word that is written like a filter is rejected, because the scanner leaves it a word
only if its name denotes nothing.  Scanner and validation read the same head, so they
agree on which words these are.

* `Token.IsUnquotedText`: the tokens that are checked for a name;
* `resolve?_of_isUnquotedText`: what the scanner leaves a word has no known name;
* `reportsUnknown_iff`: the words at which an unknown field is reported;
* `unknownField_iff`: these are all of them, and none of them is free text.
-/

namespace IssueSearch

open Time (Instant)

/-- The token is a word: a text that starts with no quote. -/
def Token.IsUnquotedText (token : Token) : Prop :=
  token.kind = .text ∧ token.raw.toList.head? ≠ some '"'

section

variable {schema : Schema} {now : Instant} {query : String} {token : Token}

/-! ## What the scanner leaves a word -/

/-- A text has the value that it is written as, and a head that it starts with has a name
that denotes nothing; or it is a phrase. -/
theorem text_cases (hmem : token ∈ schema.tokenize query) (hkind : token.kind = .text) :
    token.raw.toList.head? = some '"' ∨
      (token.raw.toList.head? ≠ some '"' ∧ token.value = token.raw ∧
        ∀ name, IsWrittenOn name token.raw.toList → schema.resolve? name = none) := by
  obtain ⟨after, hwritten⟩ := exists_isWritten hmem
  by_cases hquote : token.raw.toList.head? = some '"'
  · exact Or.inl hquote
  · have hvalue := (hwritten.text hkind).eq_of_head?_ne_quote hquote
    exact Or.inr ⟨hquote, String.toList_inj.mp hvalue, hwritten.unnamed hkind⟩

/-- The scanner leaves no word with a known name: it would be a filter. -/
theorem resolve?_of_isUnquotedText (hmem : token ∈ schema.tokenize query)
    (htext : token.IsUnquotedText) :
    ∀ name, IsWrittenOn name token.raw.toList → schema.resolve? name = none := by
  rcases text_cases hmem htext.1 with hquote | ⟨_, _, hnames⟩
  · exact absurd hquote htext.2
  · exact hnames

/-- The name of an unknown field is the one that the text is written on, if that denotes
nothing. -/
theorem unknownName?_eq_some_iff {raw name : List Char} :
    schema.unknownName? raw = some name ↔ IsWrittenOn name raw ∧ schema.resolve? name = none := by
  unfold Schema.unknownName?
  rw [isWrittenOn_iff]
  cases hread : FilterHead.read? raw with
  | none => simp
  | some found =>
    obtain ⟨head, rest⟩ := found
    constructor
    · intro h
      dsimp only at h
      split at h
      · next hnone =>
        cases h
        exact ⟨⟨head, rest, rfl, rfl⟩, by simpa using hnone⟩
      · cases h
    · rintro ⟨⟨_, _, heq, rfl⟩, hnone⟩
      cases heq
      simp [hnone]

/-! ## Rejected words -/

/-- What is rejected for its name is a text that is written on an unknown one. -/
theorem reject_unknownField_iff {name : String} :
    token.effect schema now = .reject (.unknownField name) ↔
      token.kind = .text ∧ IsWrittenOn name.toList token.raw.toList ∧
        schema.resolve? name.toList = none := by
  rw [← unknownName?_eq_some_iff]
  constructor
  · intro h
    rcases reject_cases h with ⟨hkind, found, hfound, hcause⟩ | ⟨_, field, hcause⟩ |
      ⟨_, field, _, hclause⟩
    · cases hcause
      exact ⟨hkind, by rw [String.toList_ofList, hfound]⟩
    · cases hcause
    · rcases clause?_error_cases hclause with hcause | ⟨_, hcause | hcause | hcause | hcause⟩ <;>
        cases hcause
  · rintro ⟨hkind, hname⟩
    simp [Token.effect, Token.textEffect, hkind, hname, String.ofList_toList]

/-- The query reports an unknown field of this name at the token. -/
def Query.ReportsUnknown (parsed : Query) (token : Token) (name : String) : Prop :=
  ∃ error ∈ parsed.errors, error.isAt token = true ∧ error.cause = .unknownField name

/-- An unknown field is reported at a token if it is rejected for this. -/
theorem reportsUnknown_iff (hmem : token ∈ schema.tokenize query) {name : String} :
    (schema.parse now query).ReportsUnknown token name ↔
      token.effect schema now = .reject (.unknownField name) := by
  constructor
  · rintro ⟨error, herror, hat, hcause⟩
    have hdiagnostic := diagnostic?_of_isAt hmem herror hat
    rw [← hcause]
    exact (diagnostic?_eq_some hdiagnostic).1
  · intro h
    have hdiagnostic : token.diagnostic? schema now = some
        (Diagnostic.ofCause (.unknownField name) token.startIndex token.endIndex) := by
      rw [Token.diagnostic?, h]
      rfl
    refine ⟨_, List.mem_filterMap.mpr ⟨token, hmem, hdiagnostic⟩, ?_, rfl⟩
    exact (diagnostic?_eq_some hdiagnostic).2

/-! ## Words of the free text -/

/-- The word that a token adds to the free text. -/
def Token.word? (token : Token) (schema : Schema) (now : Instant) : Option String :=
  (token.effect schema now).word?

/-- A word is free text as it is typed, and it is not written like a filter. -/
theorem word_of_isUnquotedText (hmem : token ∈ schema.tokenize query)
    (htext : token.IsUnquotedText) {word : String} (hword : token.word? schema now = some word) :
    word = token.raw ∧ ∀ name, ¬IsWrittenOn name word.toList := by
  have heffect := Effect.word?_eq_some_iff.mp hword
  have hvalue : word = token.value := by
    rcases effect_cases token schema now with hidle | ⟨_, _, hsame⟩ | ⟨hkind, _⟩ | ⟨hkind, _⟩
    · rw [Token.word?, hidle.parts.1] at hword
      cases hword
    · rw [heffect] at hsame
      cases hsame
      rfl
    · rw [htext.1] at hkind
      cases hkind
    · rw [htext.1] at hkind
      cases hkind
  rcases text_cases hmem htext.1 with hquote | ⟨_, hraw, hnames⟩
  · exact absurd hquote htext.2
  · rw [hvalue, hraw]
    refine ⟨rfl, fun name hwritten => ?_⟩
    -- written like a filter, the word would have been rejected
    have hreject : token.effect schema now = .reject (.unknownField (String.ofList name)) := by
      rw [reject_unknownField_iff, String.toList_ofList]
      exact ⟨htext.1, hwritten, hnames name hwritten⟩
    rw [heffect] at hreject
    cases hreject

end

/-- An unknown field is reported at exactly those words that are written like a filter,
by the name as it is typed.  The name is neither the sort keyword nor that of a field, and
the word is no part of the free text.  The other words are, as they are typed. -/
theorem unknownField_iff (schema : Schema) (now : Instant) (query : String) :
    let parsed := schema.parse now query
    parsed.freeText =
        String.intercalate " " (parsed.tokens.filterMap (·.word? schema now)) ∧
      ∀ token ∈ parsed.tokens,
        (∀ name, parsed.ReportsUnknown token name ↔
          token.IsUnquotedText ∧ IsWrittenOn name.toList token.raw.toList) ∧
        (∀ name, parsed.ReportsUnknown token name →
          isSortKeyword name.toList = false ∧ schema.lookup name.toList = none ∧
            token.word? schema now = none) ∧
        (token.IsUnquotedText → ∀ word ∈ token.word? schema now,
          word = token.raw ∧ ∀ name, ¬IsWrittenOn name word.toList) := by
  intro parsed
  refine ⟨?_, fun token hmem =>
    ⟨fun name => ?_, fun name hreport => ?_, fun htext word hword => ?_⟩⟩
  · simp only [parsed, Schema.parse, Query.ofTokens, List.filterMap_map]
    rfl
  · rw [reportsUnknown_iff hmem, reject_unknownField_iff]
    constructor
    · rintro ⟨hkind, hwritten, _⟩
      exact ⟨⟨hkind, hwritten.head?_ne_quote⟩, hwritten⟩
    · rintro ⟨htext, hwritten⟩
      exact ⟨htext.1, hwritten, resolve?_of_isUnquotedText hmem htext _ hwritten⟩
  · rw [reportsUnknown_iff hmem] at hreport
    obtain ⟨_, _, hunknown⟩ := reject_unknownField_iff.mp hreport
    obtain ⟨hsort, hlookup⟩ := resolve?_eq_none_iff.mp hunknown
    refine ⟨hsort, hlookup, ?_⟩
    rw [Token.word?, hreport]
    rfl
  · exact word_of_isUnquotedText hmem htext hword

/-- A negated word with a quote inside, beside a word with a dash and a phrase that is
written like a filter. -/
theorem unknownField_iff_beside_phrase :
    let query := "level:error -Bogus:>\"a\"b re-try \"is:x\""
    let parsed := Schema.standard.parse ⟨0, 0⟩ query
    let token : Token := ⟨.text, none, none, "-Bogus:>\"a\"b", false, "-Bogus:>\"a\"b", 12, 24⟩
    let other : Token := ⟨.text, none, none, "re-try", false, "re-try", 25, 31⟩
    (token ∈ parsed.tokens ∧ token.IsUnquotedText ∧
      IsWrittenOn "Bogus".toList token.raw.toList ∧ parsed.ReportsUnknown token "Bogus" ∧
      isSortKeyword "Bogus".toList = false ∧ Schema.standard.lookup "Bogus".toList = none ∧
      token.word? Schema.standard ⟨0, 0⟩ = none) ∧
    (other ∈ parsed.tokens ∧ other.IsUnquotedText ∧
      other.word? Schema.standard ⟨0, 0⟩ = some "re-try" ∧
      ∀ name, ¬IsWrittenOn name "re-try".toList) ∧
    parsed.freeText = "re-try is:x" := by
  intro query parsed token other
  have hmem : token ∈ parsed.tokens := by decide +kernel
  have htext : token.IsUnquotedText := ⟨rfl, by decide⟩
  have hwritten : IsWrittenOn "Bogus".toList token.raw.toList :=
    ⟨by decide, ['-'], ">\"a\"b".toList, Or.inr rfl, by decide⟩
  have hother : other ∈ parsed.tokens := by decide +kernel
  have hplain : other.IsUnquotedText := ⟨rfl, by decide⟩
  have hword : other.word? Schema.standard ⟨0, 0⟩ = some "re-try" := by decide +kernel
  obtain ⟨_, htokens⟩ := unknownField_iff Schema.standard ⟨0, 0⟩ query
  obtain ⟨hreports, hunknown, _⟩ := htokens token hmem
  obtain ⟨_, _, hkept⟩ := htokens other hother
  have hreport := (hreports "Bogus").mpr ⟨htext, hwritten⟩
  refine ⟨⟨hmem, htext, hwritten, hreport, hunknown "Bogus" hreport⟩,
    ⟨hother, hplain, hword, (hkept hplain "re-try" hword).2⟩, ?_⟩
  decide +kernel

end IssueSearch
