import IssueSearch.Proofs.Query.Reads
import IssueSearch.Proofs.Query.Sound
import IssueSearch.Proofs.Token.Part

/-!
# No word is longer than its lexeme

The value of a lexeme is no longer than its characters, and that of a filter is
shorter.  So a text that starts with a filter has no word of its own length.

* `length_value_le`, `length_value_filterReading_lt`: lexemes and filters;
* `length_of_reading_effect`: the word that a lexeme contributes;
* `length_words_outcome_lt`, `length_word_lt_of_readFilter?`, `length_word_lt_of_symbol`: the
  words of a text.
-/

namespace IssueSearch

open Time (Instant)

section

variable {schema : Schema} {text : List Char} {reading : Reading}

/-- A value is no longer than its characters. -/
theorem length_value_readValue_le (text : List Char) :
    (readValue text).value.length ≤ (readValue text).raw.length := by
  rcases readValue_cases text with ⟨inner, rfl, _, hread⟩ | ⟨inner, _, _, _, hread⟩ |
    ⟨word, _, _, _, _, _, hread⟩
  · simp [hread]
  · simp only [hread, List.length_append, List.length_cons]
    omega
  · simp [hread]

/-- The value of a filter is shorter than the filter. -/
theorem length_value_filterReading_lt (head : FilterHead) (subject : Schema.Subject)
    (body : List Char) :
    (filterReading head subject body).lexeme.value.length <
      (filterReading head subject body).raw.length := by
  have hvalue := length_value_readValue_le (body.drop (Operator.leadingSymbol body).length)
  simp only [filterReading, FilterHead.raw, List.length_append, List.length_singleton]
  omega

/-- The value of a lexeme is no longer than the lexeme. -/
theorem length_value_le (h : readLexeme? schema text = some reading) :
    reading.lexeme.value.length ≤ reading.raw.length := by
  cases lexemeForm h with
  | phrase inner => exact length_value_readValue_le ('"' :: inner)
  | filter body => exact Nat.le_of_lt (length_value_filterReading_lt _ _ body)
  | keyword => exact Nat.le_refl _
  | word => exact Nat.le_refl _

/-- A word is no longer than the value from which it comes. -/
theorem length_of_effect_word {token : Token} {now : Instant} {word : String}
    (h : token.effect schema now = .word word) :
    word.toList.length ≤ token.value.toList.length := by
  rcases word_cases_of_effect h with ⟨rfl, _⟩ | ⟨field, hclause⟩
  · exact Nat.le_refl _
  · obtain ⟨rfl, _⟩ := trim_of_clause?_text hclause
    rw [String.toList_ofList]
    exact Text.length_trim_le _

/-- A word is no longer than the value of its lexeme. -/
theorem length_of_reading_effect {now : Instant} {word : String}
    (h : reading.effect schema now = .word word) :
    word.toList.length ≤ reading.lexeme.value.length := by
  rw [Reading.effect] at h
  have hvalue := length_of_effect_word h
  rwa [Reading.token, String.toList_ofList] at hvalue

/-- The words of a text are no longer than the text. -/
theorem length_words_outcome_lt {now : Instant} {bound : Nat} (htext : text.length < bound)
    {before : Outcome} (hbefore : ∀ word ∈ before.words, word.toList.length < bound) :
    ∀ word ∈ (schema.outcome now text before).words, word.toList.length < bound := by
  refine outcome_induction (motive := fun outcome => ∀ word ∈ outcome.words,
    word.toList.length < bound) text (fun part reading between hpart hread hbetween => ?_) hbefore
  intro word hword
  cases heffect : reading.effect schema now with
  | word found =>
    rw [heffect] at hword
    rcases List.mem_append.mp hword with hword | hword
    · exact hbetween word hword
    · rw [List.mem_singleton.mp hword]
      have hvalue := length_of_reading_effect heffect
      have hraw := length_value_le hread
      have hsize := congrArg List.length (readLexeme?_parts hread).1
      have hsuffix := hpart.length_le
      rw [List.length_append] at hsize
      omega
  | _ => rw [heffect] at hword; exact hbetween word hword

/-- The words of a text that starts with a lexeme are shorter than a bound on the value of
the lexeme and on what follows it. -/
theorem length_words_lt_of_readLexeme? {now : Instant} {bound : Nat}
    (hread : readLexeme? schema text = some reading)
    (hvalue : reading.lexeme.value.length < bound) (hrest : reading.rest.length < bound) :
    ∀ word ∈ (schema.outcome now text Outcome.empty).words, word.toList.length < bound := by
  rw [outcome_of_readLexeme? hread]
  refine length_words_outcome_lt hrest fun word hword => ?_
  cases heffect : reading.effect schema now with
  | word found =>
    rw [heffect] at hword
    rw [List.mem_singleton.mp hword]
    exact Nat.lt_of_le_of_lt (length_of_reading_effect heffect) hvalue
  | _ => rw [heffect] at hword; cases hword

/-- A text that starts with a filter has no word of its own length. -/
theorem length_word_lt_of_readFilter? (now : Instant) {c : Char} {rest : List Char}
    (hhead : c ≠ '"') (hread : readFilter? schema (c :: rest) = some reading) :
    ∀ word ∈ (schema.outcome now (c :: rest) Outcome.empty).words,
      word.toList.length < (c :: rest).length := by
  have hphrase : readPhrase? (c :: rest) = none :=
    readPhrase?_eq_none fun heq => hhead (Option.some.inj heq)
  have hlexeme : readLexeme? schema (c :: rest) = some reading := by
    rw [readLexeme?, hphrase, hread]
    rfl
  have hsize := congrArg List.length (readLexeme?_parts hlexeme).1
  rw [List.length_append] at hsize
  have hvalue : reading.lexeme.value.length < reading.raw.length := by
    obtain ⟨head, subject, body, _, _, _, rfl⟩ := (readFilter?_eq_some_iff _ _ _).mp hread
    exact length_value_filterReading_lt head subject body
  exact length_words_lt_of_readLexeme? hlexeme (by omega) (by omega)

/-- A filter whose value stands behind the symbol of an operator has no word that is as long
as what stands behind its head. -/
theorem length_word_lt_of_symbol (now : Instant) {head : FilterHead} {subject : Schema.Subject}
    {body : List Char} (hname : isName head.name = true)
    (hresolve : schema.resolve? head.name = some subject)
    (hsymbol : Operator.leadingSymbol body ≠ []) :
    ∀ word ∈ (schema.outcome now (head.raw ++ body) Outcome.empty).words,
      word.toList.length < body.length := by
  have hpos := List.length_pos_iff.mpr hsymbol
  have hbody := congrArg List.length (Operator.leadingSymbol_append_drop body)
  have hparts := congrArg List.length
    (readValue_parts (body.drop (Operator.leadingSymbol body).length))
  have hvalue := length_value_readValue_le (body.drop (Operator.leadingSymbol body).length)
  rw [List.length_append] at hbody hparts
  refine length_words_lt_of_readLexeme? (readLexeme?_head hname hresolve body) ?_ ?_
  · show (readValue _).value.length < _
    omega
  · show (readValue _).rest.length < _
    omega

end

end IssueSearch
