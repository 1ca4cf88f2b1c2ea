import IssueSearch.Proofs.Canonical.Filter
import IssueSearch.Proofs.Query.Length
import IssueSearch.Proofs.Text.Spaced

/-!
# Free text reads back as text

Whatever a text holds, its canonical form is read as words and as nothing else,
and which words these are does not depend on the clock.  A text that is made of
words is read back as it is.

* `readsTo_bare`, `readsTo_phrase`: words with and without quotes around them;
* `quotedWord_eq`: how a word that holds a quote is written;
* `writtenWords`: the words that a written text is read as;
* `readsTo_writeText`: it is read as these words;
* `intercalate_writtenWords`: of a text made of words they are the text.
-/

namespace IssueSearch

open Text (isBlank isSolid IsSeam IsWord spaced)
open Time (Instant)

/-! ## Outcomes with more words -/

/-- The outcome after more words. -/
def Outcome.withWords (outcome : Outcome) (words : List (List Char)) : Outcome :=
  { outcome with words := outcome.words ++ words.map String.ofList }

@[simp] theorem withWords_nil (outcome : Outcome) : outcome.withWords [] = outcome := by
  simp [Outcome.withWords]

theorem withWords_append (outcome : Outcome) (first second : List (List Char)) :
    (outcome.withWords first).withWords second = outcome.withWords (first ++ second) := by
  simp [Outcome.withWords]

/-- A text as a word, unless it is empty. -/
def asWords (text : List Char) : List (List Char) :=
  if text.isEmpty then [] else [text]

section

variable (now : Instant)

/-! ## Words and phrases -/

/-- A text that is not written like a filter is a word, unless it is empty. -/
theorem effect_text {raw value : List Char} (h : Schema.standard.unknownName? raw = none) :
    (Reading.mk { kind := .text, value } raw []).effect Schema.standard now =
      if value = [] then .nothing else .word (String.ofList value) := by
  have hraw : Schema.standard.unknownName? (String.ofList raw).toList = none := by
    rwa [String.toList_ofList]
  show Token.textEffect _ _ = _
  unfold Token.textEffect
  dsimp only [Reading.token]
  rw [hraw]
  cases value <;> simp

/-- A word is read as it is if it starts with no quote and no head of a filter. -/
theorem readsTo_bare {word : List Char} (hword : ∀ c ∈ word, isSolid c = true) (hne : word ≠ [])
    (hquote : word.head? ≠ some '"') (hhead : FilterHead.read? word = none)
    (hor : word ≠ ['O', 'R']) (before : Outcome) :
    ReadsTo Schema.standard now word before (before.withWords [word]) := by
  have hread : ∀ rest, IsSeam rest → readLexeme? Schema.standard (word ++ rest) = _ :=
    fun rest hrest => readLexeme?_word hword hne hquote
      (fun head tail hfound => by rw [hhead] at hfound; cases hfound) hor hrest
  show ReadsTo _ _ _ _ (before.step (.word (String.ofList word)))
  refine readsTo_of_readLexeme? hread ?_ before
  rw [effect_text now (by rw [Schema.unknownName?, hhead]), if_neg hne]

/-- A word with a head of a filter on no field is rejected. -/
theorem readsTo_unknown {word : List Char} (hword : ∀ c ∈ word, isSolid c = true)
    (hquote : word.head? ≠ some '"') {head : FilterHead} {tail : List Char}
    (hhead : FilterHead.read? word = some (head, tail))
    (hunknown : Schema.standard.resolve? head.name = none) (before : Outcome) :
    ReadsTo Schema.standard now word before
      (before.step (.reject (.unknownField (String.ofList head.name)))) := by
  have hne : word ≠ [] := by
    rintro rfl
    cases hhead
  have hor : word ≠ ['O', 'R'] := by
    rintro rfl
    cases hhead
  have hread : ∀ rest, IsSeam rest → readLexeme? Schema.standard (word ++ rest) = _ :=
    fun rest hrest => readLexeme?_word hword hne hquote
      (fun other tail hfound => by
        rw [hhead] at hfound
        cases hfound
        exact hunknown) hor hrest
  refine readsTo_of_readLexeme? hread ?_ before
  simp [Reading.effect, Token.effect, Reading.token, Token.textEffect, Schema.unknownName?,
    hhead, hunknown]

/-- A text between quotes is a word, unless it is empty. -/
theorem readsTo_phrase {text : List Char} (h : '"' ∉ text) (before : Outcome) :
    ReadsTo Schema.standard now (betweenQuotes text) before (before.withWords (asWords text)) := by
  have hhead : FilterHead.read? ('"' :: text ++ ['"']) = none := rfl
  have heffect : before.withWords (asWords text) =
      before.step (if text = [] then .nothing else .word (String.ofList text)) := by
    cases text with
    | nil => exact withWords_nil before
    | cons c rest => rfl
  rw [heffect]
  refine readsTo_of_readLexeme? (fun rest _ => readLexeme?_phrase Schema.standard rest h) ?_ before
  exact effect_text now (by rw [Schema.unknownName?, hhead])

/-! ## Candidates -/

/-- A candidate reads as a text when it adds up to the text alone. -/
theorem readsAsText_iff (query text : List Char) :
    readsAsText now query text = true ↔
      (Schema.standard.outcome now query Outcome.empty).causes = [] ∧
        (Schema.standard.outcome now query Outcome.empty).sort = none ∧
        (Schema.standard.outcome now query Outcome.empty).searched =
          { Filters.empty with text := some (String.ofList text) } := by
  have hparse := parse_eq_outcome Schema.standard now (String.ofList query)
  rw [String.toList_ofList] at hparse
  obtain ⟨_, hsort, hfilters, hcauses⟩ := hparse
  simp only [readsAsText, hsort, hfilters, ← hcauses, Bool.and_eq_true, List.isEmpty_iff,
    Option.isNone_iff_eq_none, beq_iff_eq, List.map_eq_nil_iff, and_assoc]

/-- What reads as a text without spaces has the text as its one word, and nothing
is wrong with it. -/
theorem words_of_readsAsText {query text : List Char} (h : readsAsText now query text = true)
    (hspace : ' ' ∉ text) :
    (Schema.standard.outcome now query Outcome.empty).words = [String.ofList text] ∧
      (Schema.standard.outcome now query Outcome.empty).causes = [] := by
  obtain ⟨hcauses, _, hfilters⟩ := (readsAsText_iff now query text).mp h
  refine ⟨?_, hcauses⟩
  have htext := congrArg Filters.text hfilters
  rw [Outcome.searched] at htext
  dsimp only at htext
  split at htext
  · cases htext
  · next hempty =>
    have hfree := Option.some.inj htext
    have hne : text ≠ [] := by
      rintro rfl
      exact hempty (by rw [hfree]; rfl)
    have hjoined := congrArg String.toList hfree
    rw [Outcome.freeText, String.toList_intercalate, String.toList_ofList (l := text)] at hjoined
    have hwords := Text.eq_singleton_of_intercalate hjoined hne hspace
    obtain ⟨word, hword, rfl⟩ := List.map_eq_singleton_iff.mp hwords
    rw [hword, String.ofList_toList]

/-- What reads as a text without spaces reads as a word. -/
theorem isWord_of_readsAsText {query text : List Char} (h : readsAsText now query text = true)
    (hspace : ' ' ∉ text) : IsWord text := by
  have hsound := (isSound_outcome now query).words (String.ofList text)
  rw [(words_of_readsAsText now h hspace).1, String.toList_ofList] at hsound
  exact hsound List.mem_cons_self

/-- A candidate that is read as a text, and as nothing else, reads as the text. -/
theorem readsAsText_of_readsTo {query text : List Char} (hne : text ≠ [])
    (h : ReadsTo Schema.standard now query Outcome.empty (Outcome.empty.withWords [text])) :
    readsAsText now query text = true := by
  have hfree : (Outcome.empty.withWords [text]).freeText = String.ofList text := by
    rw [← String.toList_inj]
    simp [Outcome.freeText, Outcome.withWords, Outcome.empty]
  rw [readsAsText_iff, h.outcome_eq]
  refine ⟨rfl, rfl, ?_⟩
  rw [Outcome.searched, hfree, if_neg (by simpa using hne)]
  rfl

/-! ## Words that hold a quote -/

/-- A text that can stand without quotes around it although it holds some. -/
def isBare (word : List Char) : Bool :=
  word.all isSolid && word.head? != some '"'

theorem isBare_iff (word : List Char) :
    isBare word = true ↔ (∀ c ∈ word, isSolid c = true) ∧ word.head? ≠ some '"' := by
  simp [isBare]

/-- A word that holds a quote is read from a candidate only if it can stand without quotes
around it. -/
theorem isBare_of_readsAsText {query word : List Char} (hquote : '"' ∈ word) (hspace : ' ' ∉ word)
    (h : readsAsText now query word = true) : isBare word = true := by
  rcases (isWord_of_readsAsText now h hspace).2 with hfree | hvalue
  · exact absurd hquote hfree
  · exact (isBare_iff word).mpr hvalue

/-- A word that holds a quote reads as itself unless it starts with the head of a
filter. -/
theorem readsAsText_bare_iff {word : List Char} (hbare : isBare word = true) (hquote : '"' ∈ word) :
    readsAsText now word word = true ↔ FilterHead.read? word = none := by
  obtain ⟨hsolid, hstart⟩ := (isBare_iff word).mp hbare
  have hne : word ≠ [] := List.ne_nil_of_mem hquote
  constructor
  · intro h
    have hspace : ' ' ∉ word := fun hmem => absurd (hsolid ' ' hmem) (by decide)
    obtain ⟨hwords, hcauses⟩ := words_of_readsAsText now h hspace
    rw [Option.eq_none_iff_forall_ne_some]
    rintro ⟨head, tail⟩ hhead
    cases hresolve : Schema.standard.resolve? head.name with
    | none =>
      -- the name denotes nothing, so that the word is rejected
      have hreject := (readsTo_unknown now hsolid hstart hhead hresolve
        Outcome.empty).outcome_eq
      rw [hreject] at hcauses
      cases hcauses
    | some subject =>
      -- the word starts with a filter, so that no word of the query is as long
      cases word with
      | nil => exact hne rfl
      | cons c rest =>
        obtain ⟨op, hop⟩ := Option.isSome_iff_exists.mp
          (Operator.ofSymbol?_leadingSymbol_isSome tail)
        have hfilter : ∃ reading, readFilter? Schema.standard (c :: rest) = some reading := by
          rw [readFilter?, hhead]
          simp only [Option.bind_eq_bind, Option.bind_some, hresolve, hop]
          exact ⟨_, rfl⟩
        obtain ⟨reading, hreading⟩ := hfilter
        have hlength := length_word_lt_of_readFilter? now
          (fun heq => hstart (by rw [heq]; rfl)) hreading (String.ofList (c :: rest))
        rw [hwords, String.toList_ofList] at hlength
        exact absurd (hlength List.mem_cons_self) (Nat.lt_irrefl _)
  · intro hhead
    refine readsAsText_of_readsTo now hne
      (readsTo_bare now hsolid hne hstart hhead ?_ Outcome.empty)
    rintro rfl
    exact absurd hquote (by decide)

/-- A text with the head of a filter starts as a value. -/
theorem isValueStart_of_read? {text tail : List Char} {head : FilterHead}
    (h : FilterHead.read? text = some (head, tail)) : IsValueStart text := by
  unfold FilterHead.read? at h
  split at h
  · exact isValueStart_cons _ (Or.inr rfl)
  · obtain ⟨⟨name, rest⟩, hname, _⟩ := Option.map_eq_some_iff.mp h
    obtain ⟨hisName, rfl⟩ := (FilterHead.readName?_eq_some_iff ..).mp hname
    cases name with
    | nil => cases hisName
    | cons c name =>
      have hc := FilterHead.isNamePart_of_mem hisName c List.mem_cons_self
      exact isValueStart_cons _ (Or.inl hc)

/-- How a word that holds a quote is written: alone, unless it would be read as a
filter; then as a title; and without its quotes if it cannot stand alone. -/
theorem quotedWord_eq {word : List Char} (hquote : '"' ∈ word) (hspace : ' ' ∉ word)
    (first second : Instant) :
    quotedWord first second word =
      if isBare word then
        if FilterHead.read? word = none then word else "title:".toList ++ word
      else betweenQuotes (word.filter isUnquote) := by
  unfold quotedWord
  dsimp only
  by_cases hbare : isBare word = true
  · obtain ⟨hsolid, hstart⟩ := (isBare_iff word).mp hbare
    rw [if_pos hbare]
    by_cases hhead : FilterHead.read? word = none
    · rw [if_pos ((readsAsText_bare_iff first hbare hquote).mpr hhead), if_pos hhead]
    · obtain ⟨⟨head, tail⟩, hfound⟩ := Option.ne_none_iff_exists'.mp hhead
      have htitle := readsTo_title second hsolid (isValueStart_of_read? hfound)
        Outcome.empty
      have hreads := readsAsText_of_readsTo second (List.ne_nil_of_mem hquote) htitle
      rw [if_neg fun h => hhead ((readsAsText_bare_iff first hbare hquote).mp h), if_pos hreads,
        if_neg hhead]
  · have hnone : ∀ (now : Instant) (query : List Char), ¬readsAsText now query word = true :=
      fun now query h => hbare (isBare_of_readsAsText now hquote hspace h)
    rw [if_neg (hnone first _), if_neg (hnone second _), if_neg hbare]

/-- The words that a written word with a quote is read as. -/
def quotedWords (word : List Char) : List (List Char) :=
  if isBare word then [word] else asWords (word.filter isUnquote)

/-- A written word with a quote is read as a word without blanks, or as what is left
without the quotes. -/
theorem readsTo_quotedWord {word : List Char} (hquote : '"' ∈ word) (hspace : ' ' ∉ word)
    (first second : Instant) (before : Outcome) :
    ReadsTo Schema.standard now (quotedWord first second word) before
      (before.withWords (quotedWords word)) := by
  rw [quotedWord_eq hquote hspace, quotedWords]
  by_cases hbare : isBare word = true
  · obtain ⟨hsolid, hstart⟩ := (isBare_iff word).mp hbare
    rw [if_pos hbare, if_pos hbare]
    split
    · next hhead =>
      refine readsTo_bare now hsolid (List.ne_nil_of_mem hquote) hstart hhead ?_ before
      rintro rfl
      exact absurd hquote (by decide)
    · next hhead =>
      obtain ⟨⟨head, tail⟩, hfound⟩ := Option.ne_none_iff_exists'.mp hhead
      exact readsTo_title now hsolid (isValueStart_of_read? hfound) before
  · rw [if_neg hbare, if_neg hbare]
    refine readsTo_phrase now (fun hmem => ?_) before
    exact absurd (List.mem_filter.mp hmem).2 (by decide)

/-! ## Texts -/

/-- A text that is not empty is a word in its plain form. -/
theorem readsTo_plainOrQuoted {text : List Char} (hne : text ≠ [])
    (hquote : '"' ∈ text → text.any isBlank = false ∧ isPlainWord text = true)
    (before : Outcome) :
    ReadsTo Schema.standard now (plainOrQuoted text) before (before.withWords [text]) := by
  unfold plainOrQuoted
  by_cases hplain : text.any isBlank = false ∧ isPlainWord text = true
  · obtain ⟨hblank, hword⟩ := hplain
    rw [if_pos (by simp [hblank, hword])]
    simp only [isPlainWord, Bool.and_eq_true, bne_iff_ne, ne_eq, Bool.not_eq_true',
      List.contains_eq_mem, decide_eq_false_iff_not] at hword
    obtain ⟨⟨⟨⟨_, hcolon⟩, _⟩, hstart⟩, hor⟩ := hword
    refine readsTo_bare now (fun c hc => ?_) hne hstart (read?_of_no_colon hcolon) hor before
    rw [Text.isSolid_iff]
    simpa using List.any_eq_false.mp hblank c hc
  · have hfree : '"' ∉ text := fun hmem => hplain (hquote hmem)
    have hwords : asWords text = [text] := if_neg (by simpa using hne)
    have hread := readsTo_phrase now hfree before
    rw [hwords] at hread
    rwa [if_neg]
    intro h
    rw [Bool.and_eq_true, Bool.not_eq_true'] at h
    exact hplain h

/-- A run of pieces without quotes is one word, unless it is empty. -/
theorem readsAll_phraseParts {run : List (List Char)} (hrun : ∀ piece ∈ run, '"' ∉ piece)
    (before : Outcome) :
    ReadsAll Schema.standard now (phraseParts run) before
      (before.withWords (asWords (List.intercalate [' '] run))) := by
  unfold phraseParts asWords
  dsimp only
  split
  · rw [withWords_nil]
    exact .nil before
  · next hne =>
    refine .single (readsTo_plainOrQuoted now (by simpa using hne) (fun hmem => ?_) before)
    rcases Text.mem_intercalate hmem with hc | ⟨piece, hpiece, hc⟩
    · exact absurd hc (by decide)
    · exact absurd hc (hrun piece hpiece)

/-- The words that the parts of a text are read as. -/
def textWords (run : List (List Char)) : List (List Char) → List (List Char)
  | [] => asWords (List.intercalate [' '] run)
  | piece :: rest =>
      if piece.contains '"' then
        asWords (List.intercalate [' '] run) ++ quotedWords piece ++ textWords [] rest
      else textWords (run ++ [piece]) rest

/-- The parts of a text are read as its words. -/
theorem readsAll_textParts (clock : Clock) {pieces : List (List Char)}
    (hpieces : ∀ piece ∈ pieces, ' ' ∉ piece) :
    ∀ (index : Nat) (run : List (List Char)) (before : Outcome),
      (∀ piece ∈ run, '"' ∉ piece) →
      ReadsAll Schema.standard now (textParts clock index run pieces) before
        (before.withWords (textWords run pieces)) := by
  induction pieces with
  | nil =>
    intro index run before hrun
    exact readsAll_phraseParts now hrun before
  | cons piece pieces ih =>
    intro index run before hrun
    have hspace := hpieces piece List.mem_cons_self
    have hrest := ih fun other hother => hpieces other (List.mem_cons_of_mem _ hother)
    rw [textParts, textWords]
    by_cases hquote : piece.contains '"' = true
    · have hmem : '"' ∈ piece := by simpa using hquote
      rw [if_pos hquote, if_pos hquote, ← withWords_append, ← withWords_append]
      refine ((readsAll_phraseParts now hrun before).append (.single ?_)).append
        (hrest _ [] _ (by simp))
      exact readsTo_quotedWord now hmem hspace _ _ _
    · rw [if_neg hquote, if_neg hquote]
      refine hrest _ _ before fun other hother => ?_
      rcases List.mem_append.mp hother with hother | hother
      · exact hrun other hother
      · rw [List.mem_singleton.mp hother]
        simpa using hquote

/-- The words that a written text is read as. -/
def writtenWords (text : List Char) : List (List Char) :=
  if text.contains '"' && (text.any isBlank || !isPlainWord text) then
    textWords [] (text.splitOn ' ')
  else [text]

/-- A written text is read as words and as nothing else. -/
theorem readsTo_writeText (clock : Clock) {text : List Char} (hne : text ≠ [])
    (before : Outcome) :
    ReadsTo Schema.standard now (writeText clock text) before
      (before.withWords (writtenWords text)) := by
  unfold writeText writtenWords
  split
  · exact (readsAll_textParts now clock (fun piece => Text.not_mem_of_mem_splitOn) 0 [] before
      (by simp)).intercalate
  · next hplain =>
    refine readsTo_plainOrQuoted now hne (fun hmem => ?_) before
    simpa [hmem] using hplain

end

/-! ## No clock has a part in it -/

/-- The parts of a text are the same at all times. -/
theorem textParts_clock (clock other : Clock) {pieces : List (List Char)}
    (hpieces : ∀ piece ∈ pieces, ' ' ∉ piece) :
    ∀ (index : Nat) (run : List (List Char)),
      textParts clock index run pieces = textParts other index run pieces := by
  induction pieces with
  | nil => exact fun _ _ => rfl
  | cons piece pieces ih =>
    intro index run
    have hrest := ih fun next hnext => hpieces next (List.mem_cons_of_mem _ hnext)
    rw [textParts, textParts, hrest, hrest]
    by_cases hquote : piece.contains '"' = true
    · have hmem : '"' ∈ piece := by simpa using hquote
      have hspace := hpieces piece List.mem_cons_self
      rw [quotedWord_eq hmem hspace, quotedWord_eq hmem hspace]
    · rw [if_neg hquote, if_neg hquote]

/-- A text is written in the same way at all times. -/
theorem writeText_clock (clock other : Clock) (text : List Char) :
    writeText clock text = writeText other text := by
  rw [writeText, writeText, textParts_clock clock other fun piece => Text.not_mem_of_mem_splitOn]

/-! ## Texts that are made of words -/

/-- Pieces without quotes join the run. -/
theorem textWords_append {pieces : List (List Char)} (hpieces : ∀ piece ∈ pieces, '"' ∉ piece) :
    ∀ run rest, textWords run (pieces ++ rest) = textWords (run ++ pieces) rest := by
  induction pieces with
  | nil => simp
  | cons piece pieces ih =>
    intro run rest
    have hfree : ¬piece.contains '"' = true := by simpa using hpieces piece List.mem_cons_self
    rw [List.cons_append, textWords, if_neg hfree,
      ih fun other hother => hpieces other (List.mem_cons_of_mem _ hother)]
    simp

/-- A run that is more than one empty piece is one word, which stands for it. -/
theorem spaced_asWords {run : List (List Char)} (h : spaced run ≠ [' ']) :
    spaced (asWords (List.intercalate [' '] run)) = spaced run := by
  cases run with
  | nil => rfl
  | cons piece run =>
    rw [Text.spaced_eq_cons (List.cons_ne_nil _ _)] at h ⊢
    unfold asWords
    split
    · next hempty =>
      rw [List.isEmpty_iff] at hempty
      rw [hempty] at h
      exact absurd rfl h
    · exact Text.spaced_singleton _

/-- The pieces of words are read as words that stand for the same text.  Behind a
run that is more than one empty piece, no part of it is dropped. -/
theorem spaced_textWords {words : List (List Char)} (hwords : ∀ word ∈ words, IsWord word) :
    ∀ run, spaced run ≠ [' '] →
      spaced (textWords run (words.flatMap (·.splitOn ' '))) = spaced (run ++ words) := by
  induction words with
  | nil =>
    intro run hrun
    rw [List.flatMap_nil, List.append_nil]
    exact spaced_asWords hrun
  | cons word words ih =>
    intro run hrun
    obtain ⟨hne, hvalue⟩ := hwords word List.mem_cons_self
    have hrest := ih fun other hother => hwords other (List.mem_cons_of_mem _ hother)
    rw [List.flatMap_cons]
    by_cases hquote : '"' ∈ word
    · -- a word with a quote is one piece, which is written by itself
      have hbare : isBare word = true :=
        (isBare_iff word).mpr (hvalue.resolve_left fun hfree => hfree hquote)
      have hsolid := ((isBare_iff word).mp hbare).1
      have hspace : ' ' ∉ word := fun hmem => absurd (hsolid ' ' hmem) (by decide)
      rw [List.splitOn_eq_singleton hspace, List.singleton_append, textWords,
        if_pos (by simpa using hquote), quotedWords, if_pos hbare]
      simp only [Text.spaced_append, spaced_asWords hrun, hrest [] (by simp [spaced]),
        List.nil_append, Text.spaced_cons, Text.spaced_nil, List.append_nil, List.append_assoc]
    · -- the pieces of any other word join the run
      rw [textWords_append fun piece hpiece hmem => hquote (Text.mem_of_mem_splitOn hpiece hmem),
        hrest]
      · simp only [Text.spaced_append, Text.spaced_splitOn, Text.spaced_cons, Text.spaced_nil,
          List.append_nil, List.append_assoc]
      · rw [Text.spaced_append, Text.spaced_splitOn, Text.spaced_singleton]
        intro heq
        have hlength := congrArg List.length heq
        have hpos := List.length_pos_iff.mpr hne
        rw [List.length_append, List.length_cons, List.length_singleton] at hlength
        omega

/-- A text that is made of words is read back as it is. -/
theorem intercalate_writtenWords {words : List (List Char)} (hwords : ∀ word ∈ words, IsWord word)
    (hne : words ≠ []) :
    List.intercalate [' '] (writtenWords (List.intercalate [' '] words)) =
      List.intercalate [' '] words := by
  unfold writtenWords
  split
  · rw [Text.splitOn_intercalate_words hne]
    exact Text.intercalate_eq_of_spaced_eq (spaced_textWords hwords [] (by simp [spaced]))
  · exact List.intercalate_singleton

end IssueSearch
