import IssueSearch.Proofs.Canonical.FreeText
import IssueSearch.Proofs.Canonical.Slots

/-!
# The canonical form reads back

Reading the canonical form of a search gives back its slots and its order at any
time, whatever the free text is, and the free text too if any query can have it.
What was read from a query is read back in full unless the lower bound -1 on users
has lost its upper bound 1.

* `readsTo_canonical`: what the canonical form adds up to;
* `parse_canonical`: any text beside any slots that have a written form;
* `exists_freeText_iff`: the texts that a query can have, which are those read back;
* `parse_canonical_parse`: what is left of a query.
-/

namespace IssueSearch

open Text (isSolid IsWord)
open Time (Instant)

/-! ## What the canonical form adds up to -/

/-- The words that the free text of a search is read as. -/
def searchWords (text : Option String) : List (List Char) :=
  ((text.filter (!·.isEmpty)).toList).flatMap fun text => writtenWords text.toList

/-- The canonical form is the row of its parts. -/
theorem toList_canonical (clock : Clock) (filters : Filters) (order : Option SortOrder) :
    (filters.canonical clock order).toList =
      List.intercalate [' '] ((structuredParts filters order).map String.toList ++
        (freeTextParts clock filters.text).map String.toList) := by
  rw [Filters.canonical, String.toList_intercalate, List.map_append]
  rfl

/-- The free text is read as its words. -/
theorem readsAll_freeTextParts (clock : Clock) (text : Option String) (now : Instant)
    (before : Outcome) :
    ReadsAll Schema.standard now ((freeTextParts clock text).map String.toList) before
      (before.withWords (searchWords text)) := by
  unfold freeTextParts searchWords
  cases hfilter : text.filter (!·.isEmpty) with
  | none =>
    rw [Option.toList_none, List.flatMap_nil, withWords_nil]
    exact .nil before
  | some found =>
    have hne : found.toList ≠ [] := by
      simpa using (Option.filter_eq_some_iff.mp hfilter).2
    rw [Option.toList_some, List.flatMap_singleton]
    refine .single ?_
    rw [String.toList_ofList]
    exact readsTo_writeText now clock hne before

/-- What the canonical form of a search adds up to. -/
def canonicalOutcome (filters : Filters) (order : Option SortOrder) : Outcome :=
  (Outcome.mk { filters.readable with text := none } order [] filters.writtenCauses).withWords
    (searchWords filters.text)

/-- The canonical form adds up to the slots, the order and the words of the free
text. -/
theorem readsTo_canonical {filters : Filters} (h : filters.IsParsed) {order : Option SortOrder}
    (horder : ∀ found ∈ order, isSortable found.field = true) (clock : Clock) (now : Instant) :
    ReadsTo Schema.standard now (filters.canonical clock order).toList Outcome.empty
      (canonicalOutcome filters order) := by
  rw [toList_canonical]
  exact ((readsAll_structuredParts now h horder).append
    (readsAll_freeTextParts clock filters.text now _)).intercalate

/-- The meaning of a canonical form is what it adds up to. -/
theorem parse_canonical_eq {filters : Filters} (h : filters.IsParsed)
    {order : Option SortOrder} (horder : ∀ found ∈ order, isSortable found.field = true)
    (clock : Clock) (now : Instant) :
    (Schema.standard.parse now (filters.canonical clock order)).sort = order ∧
      (Schema.standard.parse now (filters.canonical clock order)).filters =
        (canonicalOutcome filters order).searched ∧
      (Schema.standard.parse now (filters.canonical clock order)).errors.map (·.cause) =
        filters.writtenCauses := by
  obtain ⟨_, hsort, hfilters, hcauses⟩ :=
    parse_eq_outcome Schema.standard now (filters.canonical clock order)
  rw [(readsTo_canonical h horder clock now).outcome_eq] at hsort hfilters hcauses
  exact ⟨hsort, hfilters, hcauses⟩

/-! ## Any text beside any slots -/

/-- Slots that have a written form are among those that reading leaves. -/
theorem Filters.IsWritable.isParsed {filters : Filters} (h : filters.IsWritable) :
    filters.IsParsed ∧ filters.hasUnwritableUsers = false := by
  have hone : (0 : Int) ≤ (1 : Int64).toInt := by decide
  have hminus : (-1 : Int) ≤ (-1 : Int64).toInt := by decide
  rcases h.users with ⟨hgt, hlt⟩ | ⟨hgt, hlt⟩
  · refine ⟨{ h with usersGt := fun n hn => ?_, usersLt := hlt }, ?_⟩
    · have hn := hgt n hn
      omega
    · rw [Bool.eq_false_iff, ne_eq, hasUnwritableUsers_iff]
      rintro ⟨hleast, _⟩
      exact absurd (hgt (-1) hleast) (by decide)
  · refine ⟨{ h with usersGt := ?_, usersLt := ?_ }, ?_⟩
    · rw [hgt]
      exact isAtLeast_some hminus
    · rw [hlt]
      exact isAtLeast_some hone
    · rw [Bool.eq_false_iff, ne_eq, hasUnwritableUsers_iff]
      exact fun hlone => hlone.2 hlt

/-- Slots that have a written form and an order that is possible are read back
beside any text and at any time; the text is in the way of none of them and is
never an error. -/
theorem parse_canonical {filters : Filters} (h : filters.IsWritable) {order : Option SortOrder}
    (horder : ∀ found ∈ order, isSortable found.field = true) (text : Option String)
    (clock : Clock) (now : Instant) :
    let parsed := Schema.standard.parse now ({ filters with text }.canonical clock order)
    parsed.errors = [] ∧ parsed.sort = order ∧
      { parsed.filters with text := none } = { filters with text := none } := by
  obtain ⟨hparsed, hwritable⟩ := h.isParsed
  have hslots : { filters with text }.IsParsed := { hparsed with }
  have hkept : { filters with text }.hasUnwritableUsers = false := hwritable
  obtain ⟨hreadable, hwritten⟩ := readable_of_writable hkept
  obtain ⟨hsort, hfilters, hcauses⟩ := parse_canonical_eq hslots horder clock now
  rw [hwritten, List.map_eq_nil_iff] at hcauses
  refine ⟨hcauses, hsort, ?_⟩
  rw [hfilters, canonicalOutcome, hreadable]
  rfl

/-- A hostile text beside an equality, the open interval around 0, dates and an
order. -/
theorem parse_canonical_hostile :
    let filters : Filters := {
      status := some ["resolved", "unresolved"], countGte := some 7, countLte := some 7,
      countGt := some Int64.maxValue, usersGt := some (-1), usersLt := some 1
      firstSeenAfter := some (Instant.ofMillis 1704067199999).format
      lastSeenBefore := some (Instant.ofMillis (-62135596800000)).format }
    let order : Option SortOrder := some ⟨"users", .asc⟩
    let text := "is:resolved \"x\"\tsort:count -level:\"error users:>\"9"
    let parsed := Schema.standard.parse ⟨0, 0⟩
      ({ filters with text := some text }.canonical (fun _ => ⟨0, 0⟩) order)
    filters.IsWritable ∧ (∀ found ∈ order, isSortable found.field = true) ∧
      parsed.errors = [] ∧ parsed.sort = order ∧
      { parsed.filters with text := none } = { filters with text := none } := by
  intro filters order text parsed
  have hfilters : filters.IsWritable := {
    status := by
      intro list hlist
      rw [← Option.some.inj hlist]
      decide
    level := isValueList_none _
    countGt := isAtLeast_some (by decide)
    countLt := isAtLeast_none _
    countGte := isAtLeast_some (by decide)
    countLte := isAtLeast_some (by decide)
    firstSeenAfter := isWireDate_format (by decide)
    firstSeenBefore := isWireDate_none
    lastSeenAfter := isWireDate_none
    lastSeenBefore := isWireDate_format (by decide)
    users := Or.inr ⟨rfl, rfl⟩ }
  have horder : ∀ found ∈ order, isSortable found.field = true := by
    intro found hfound
    rw [← Option.some.inj hfound]
    decide
  exact ⟨hfilters, horder, parse_canonical hfilters horder (some text) _ ⟨0, 0⟩⟩

/-! ## Texts that a query can have -/

/-- A free text is absent, or it is words with spaces between them. -/
def IsFreeText (text : Option String) : Prop :=
  ∀ found ∈ text, ∃ words : List (List Char), words ≠ [] ∧ (∀ word ∈ words, IsWord word) ∧
    found.toList = List.intercalate [' '] words

/-- Words with spaces between them are not empty. -/
theorem intercalate_ne_nil {words : List (List Char)} (hne : words ≠ [])
    (hwords : ∀ word ∈ words, IsWord word) : List.intercalate [' '] words ≠ [] := by
  intro hnil
  cases words with
  | nil => exact hne rfl
  | cons word words =>
    have hspaced := Text.spaced_eq_cons (List.cons_ne_nil word words)
    rw [hnil, Text.spaced_cons] at hspaced
    have hlength := congrArg List.length hspaced
    have hpos := List.length_pos_iff.mpr (hwords word List.mem_cons_self).1
    rw [List.length_append, List.length_cons, List.length_singleton] at hlength
    omega

/-- The words that a free text is read as are the text. -/
theorem searched_canonicalOutcome {filters : Filters} (htext : IsFreeText filters.text)
    (order : Option SortOrder) :
    (canonicalOutcome filters order).searched = filters.readable := by
  have hfree : (canonicalOutcome filters order).freeText.toList =
      List.intercalate [' '] (searchWords filters.text) := by
    have hchars : (searchWords filters.text).map (String.toList ∘ String.ofList) =
        searchWords filters.text := by
      simp [Function.comp_def, String.toList_ofList]
    rw [Outcome.freeText, String.toList_intercalate, canonicalOutcome, Outcome.withWords,
      List.nil_append, List.map_map, hchars]
    rfl
  have hkept : filters.readable.text = filters.text := by
    unfold Filters.readable
    split <;> rfl
  have hslots : (canonicalOutcome filters order).filters = { filters.readable with text := none } :=
    rfl
  rw [Outcome.searched, hslots]
  cases hsearch : filters.text with
  | none =>
    rw [hsearch] at hfree hkept
    have hempty : (canonicalOutcome filters order).freeText.isEmpty = true := by
      simpa [searchWords] using hfree
    rw [if_pos hempty, ← hkept]
  | some found =>
    obtain ⟨words, hne, hwords, hfound⟩ := htext found hsearch
    have hnil : found.toList ≠ [] := hfound ▸ intercalate_ne_nil hne hwords
    have hfilter : (some found).filter (!·.isEmpty) = some found := by
      simpa [Option.filter_eq_some_iff] using hnil
    rw [hsearch] at hfree hkept
    rw [searchWords, hfilter, Option.toList_some, List.flatMap_singleton, hfound,
      intercalate_writtenWords hwords hne, ← hfound, String.toList_inj] at hfree
    rw [hfree, if_neg (by simpa using hnil), ← hkept]

/-- The free text of a query is made of words. -/
theorem isFreeText_parse (now : Instant) (query : String) :
    IsFreeText (Schema.standard.parse now query).filters.text := by
  obtain ⟨_, _, hfilters, _⟩ := parse_eq_outcome Schema.standard now query
  have hsound := isSound_outcome now query.toList
  intro found hfound
  rw [hfilters, Outcome.searched] at hfound
  dsimp only at hfound
  split at hfound
  · cases hfound
  · next hempty =>
    obtain rfl := Option.some.inj hfound
    rw [Outcome.freeText] at hempty ⊢
    rw [String.toList_intercalate]
    refine ⟨_, ?_, fun word hword => ?_, rfl⟩
    · intro hnil
      rw [List.map_eq_nil_iff] at hnil
      rw [hnil] at hempty
      exact hempty rfl
    · obtain ⟨text, htext, rfl⟩ := List.mem_map.mp hword
      exact hsound.words text htext

/-- A search with a free text that a query can have is read back but for a bound
without a written form. -/
theorem parse_canonical_of_isFreeText {filters : Filters} (h : filters.IsParsed)
    (htext : IsFreeText filters.text) {order : Option SortOrder}
    (horder : ∀ found ∈ order, isSortable found.field = true) (clock : Clock) (now : Instant) :
    (Schema.standard.parse now (filters.canonical clock order)).sort = order ∧
      (Schema.standard.parse now (filters.canonical clock order)).filters = filters.readable ∧
      (Schema.standard.parse now (filters.canonical clock order)).errors.map (·.cause) =
        filters.writtenCauses := by
  obtain ⟨hsort, hfilters, hcauses⟩ := parse_canonical_eq h horder clock now
  rw [searched_canonicalOutcome htext] at hfilters
  exact ⟨hsort, hfilters, hcauses⟩

/-- An empty text is written like an absent one. -/
theorem freeTextParts_some (clock : Clock) (text : String) :
    freeTextParts clock (some text) =
      freeTextParts clock (if text.isEmpty then none else some text) := by
  cases hempty : text.isEmpty <;> simp [freeTextParts, Option.filter, hempty]

/-- A search for nothing but a text that a query can have is read back. -/
theorem parse_canonical_text {text : String}
    (htext : IsFreeText (if text.isEmpty then none else some text)) (clock : Clock)
    (now : Instant) :
    let parsed := Schema.standard.parse now
      ({ Filters.empty with text := some text }.canonical clock none)
    parsed.errors = [] ∧ parsed.sort = none ∧
      parsed.filters =
        { Filters.empty with text := if text.isEmpty then none else some text } := by
  have hsame : { Filters.empty with text := some text }.canonical clock none =
      { Filters.empty with text := if text.isEmpty then none else some text }.canonical clock
        none := by
    rw [Filters.canonical, Filters.canonical, freeTextParts_some]
    rfl
  have horder : ∀ found ∈ (none : Option SortOrder), isSortable found.field = true := by
    intro found hfound
    cases hfound
  have hslots : { Filters.empty with
      text := if text.isEmpty then none else some text }.IsParsed := { Filters.isParsed_empty with }
  obtain ⟨hsort, hfilters, hcauses⟩ :=
    parse_canonical_of_isFreeText hslots htext horder clock now
  rw [hsame]
  exact ⟨List.map_eq_nil_iff.mp hcauses, hsort, hfilters⟩

/-- The words of a free text that may be empty. -/
theorem isFreeText_present_iff (text : String) :
    IsFreeText (if text.isEmpty then none else some text) ↔
      text = "" ∨ ∃ words : List (List Char), words ≠ [] ∧ (∀ word ∈ words, IsWord word) ∧
        text.toList = List.intercalate [' '] words := by
  cases hempty : text.isEmpty with
  | true =>
    refine iff_of_true ?_ (Or.inl (String.isEmpty_iff.mp hempty))
    intro found hfound
    cases hfound
  | false =>
    have hne : text ≠ "" := by
      rintro rfl
      cases hempty
    rw [or_iff_right hne]
    exact ⟨fun htext => htext text rfl, fun hwords found hfound => Option.some.inj hfound ▸ hwords⟩

/-- Texts that are the same when an empty one counts as absent are the same. -/
theorem eq_of_present_eq {text other : String}
    (h : (if text.isEmpty then none else some text) =
      if other.isEmpty then none else some other) : text = other := by
  split at h
  · next hempty =>
    split at h
    · next hnone => rw [String.isEmpty_iff.mp hempty, String.isEmpty_iff.mp hnone]
    · cases h
  · split at h
    · cases h
    · exact Option.some.inj h

/-- A text is the free text of some query if, and only if, it is empty or consists of
words with one space between each two, of which each has no quotes, or has no blanks
and does not start with a quote.  The same texts are those that a search for the text
alone gives back, at any time, with nothing beside them. -/
theorem exists_freeText_iff (text : String) (clock : Clock) (later : Instant) :
    ((∃ query now, (Schema.standard.parse now query).freeText = text) ↔
      text = "" ∨ ∃ words : List (List Char), words ≠ [] ∧
        (∀ word ∈ words, word ≠ [] ∧
          ('"' ∉ word ∨ (∀ c ∈ word, isSolid c = true) ∧ word.head? ≠ some '"')) ∧
        text.toList = List.intercalate [' '] words) ∧
    ((∃ query now, (Schema.standard.parse now query).freeText = text) ↔
      let query := { Filters.empty with text := some text }.canonical clock none
      let parsed := Schema.standard.parse later query
      parsed.errors = [] ∧ parsed.sort = none ∧
        parsed.filters =
          { Filters.empty with text := if text.isEmpty then none else some text }) := by
  have hmade : (∃ query now, (Schema.standard.parse now query).freeText = text) →
      IsFreeText (if text.isEmpty then none else some text) := by
    rintro ⟨query, now, rfl⟩
    exact isFreeText_parse now query
  have hfound : (Schema.standard.parse later
      ({ Filters.empty with text := some text }.canonical clock none)).filters =
        { Filters.empty with text := if text.isEmpty then none else some text } →
      ∃ query now, (Schema.standard.parse now query).freeText = text :=
    fun hfilters => ⟨_, later, eq_of_present_eq (congrArg Filters.text hfilters)⟩
  constructor
  · have hiff : (∃ query now, (Schema.standard.parse now query).freeText = text) ↔
        IsFreeText (if text.isEmpty then none else some text) :=
      ⟨hmade, fun htext => hfound (parse_canonical_text htext clock later).2.2⟩
    exact hiff.trans (isFreeText_present_iff text)
  · exact ⟨fun hexists => parse_canonical_text (hmade hexists) clock later,
      fun hparsed => hfound hparsed.2.2⟩

/-- Spaces at both ends and beside each other, a tab inside a phrase, and words with a
quote, one of them with a dash and a colon. -/
theorem exists_freeText_iff_spaces_and_quotes :
    let text := "  a\t  b\"c -level:\"x y  "
    let parsed := Schema.standard.parse ⟨0, 0⟩
      ({ Filters.empty with text := some text }.canonical (fun _ => ⟨0, 0⟩) none)
    (∃ query now, (Schema.standard.parse now query).freeText = text) ∧
      parsed.errors = [] ∧ parsed.sort = none ∧
      parsed.filters = { Filters.empty with text := some text } := by
  intro text parsed
  obtain ⟨hmade, hread⟩ := exists_freeText_iff text (fun _ => ⟨0, 0⟩) ⟨0, 0⟩
  have hwords : text = "" ∨ ∃ words : List (List Char), words ≠ [] ∧
      (∀ word ∈ words, word ≠ [] ∧
        ('"' ∉ word ∨ (∀ c ∈ word, isSolid c = true) ∧ word.head? ≠ some '"')) ∧
      text.toList = List.intercalate [' '] words :=
    Or.inr ⟨["  a\t ".toList, "b\"c".toList, "-level:\"x".toList, "y  ".toList],
      by simp, by simp [isSolid, Text.isBlank], by decide⟩
  have hexists := hmade.mpr hwords
  exact ⟨hexists, hread.mp hexists⟩

/-! ## What is left of a query -/

/-- What was read from a query are slots and an order that reading can leave. -/
theorem isParsed_parse (now : Instant) (query : String) :
    (Schema.standard.parse now query).filters.IsParsed ∧
      ∀ found ∈ (Schema.standard.parse now query).sort, isSortable found.field = true := by
  obtain ⟨_, hsort, hfilters, _⟩ := parse_eq_outcome Schema.standard now query
  have hsound := isSound_outcome now query.toList
  rw [hsort, hfilters]
  exact ⟨{ hsound.filters with }, hsound.sort⟩

/-- The canonical form is the same at all times. -/
theorem canonical_clock (clock other : Clock) (filters : Filters) (order : Option SortOrder) :
    filters.canonical clock order = filters.canonical other order := by
  have htext : freeTextParts clock filters.text = freeTextParts other filters.text := by
    unfold freeTextParts
    simp only [writeText_clock clock other]
  rw [Filters.canonical, Filters.canonical, htext]

/-- The canonical form of a query is read back at any time, but for a bound without a
written form. -/
theorem parse_canonical_readable (query : String) (now later : Instant) (clock : Clock) :
    let parsed := Schema.standard.parse now query
    let reparsed := Schema.standard.parse later (parsed.canonical clock)
    reparsed.sort = parsed.sort ∧ reparsed.filters = parsed.filters.readable ∧
      reparsed.errors.map (·.cause) = parsed.filters.writtenCauses := by
  obtain ⟨hparsed, horder⟩ := isParsed_parse now query
  exact parse_canonical_of_isFreeText hparsed (isFreeText_parse now query) horder clock later

/-- The canonical form of a query is read back at any time as its order and its
filters, and it is its own canonical form, unless the lower bound -1 on users has
lost its upper bound 1: then this bound, and nothing else, is rejected and
missing. -/
theorem parse_canonical_parse (query : String) (now later : Instant) (clock again : Clock) :
    let parsed := Schema.standard.parse now query
    let reparsed := Schema.standard.parse later (parsed.canonical clock)
    let writable := parsed.filters.usersGt ≠ some (-1) ∨ parsed.filters.usersLt = some 1
    reparsed.sort = parsed.sort ∧ reparsed.filters = parsed.filters.readable ∧
      reparsed.errors.map (·.cause) = parsed.filters.writtenCauses ∧
      (reparsed.errors = [] ↔ writable) ∧ (reparsed.filters = parsed.filters ↔ writable) ∧
      (reparsed.canonical again = parsed.canonical clock ↔ writable) := by
  intro parsed reparsed writable
  have hreparsed := parse_canonical_readable query now later clock
  obtain ⟨hsort, hfilters, hcauses⟩ : reparsed.sort = parsed.sort ∧
    reparsed.filters = parsed.filters.readable ∧
    reparsed.errors.map (·.cause) = parsed.filters.writtenCauses := hreparsed
  have hcondition : writable ↔ parsed.filters.hasUnwritableUsers = false := by
    rw [Bool.eq_false_iff, ne_eq, hasUnwritableUsers_iff, not_and_or, not_not]
  refine ⟨hsort, hfilters, hcauses, ?_⟩
  rw [hcondition]
  cases hunwritable : parsed.filters.hasUnwritableUsers with
  | false =>
    obtain ⟨hreadable, hwritten⟩ := readable_of_writable hunwritable
    have hsame : reparsed.filters = parsed.filters := hfilters.trans hreadable
    have hcanonical : reparsed.canonical again = parsed.canonical clock := by
      rw [Query.canonical, Query.canonical, hsame, hsort]
      exact canonical_clock again clock _ _
    exact ⟨iff_of_true (List.map_eq_nil_iff.mp (hcauses.trans hwritten)) rfl,
      iff_of_true hsame rfl, iff_of_true hcanonical rfl⟩
  | true =>
    obtain ⟨hreadable, hwritten⟩ := readable_of_unwritable hunwritable
    refine ⟨iff_of_false ?_ Bool.noConfusion, iff_of_false ?_ Bool.noConfusion,
      iff_of_false ?_ Bool.noConfusion⟩
    · intro hnone
      rw [hnone, hwritten] at hcauses
      cases hcauses
    · intro hsame
      have hkept := hasUnwritableUsers_readable parsed.filters
      rw [← hfilters, hsame, hunwritable] at hkept
      cases hkept
    · intro hsame
      -- what is left has no error, but the canonical form of the query has one
      obtain ⟨_, _, hleft⟩ : _ ∧ _ ∧
          (Schema.standard.parse later (reparsed.canonical again)).errors.map (·.cause) =
            reparsed.filters.writtenCauses :=
        parse_canonical_readable (parsed.canonical clock) later later again
      have hkept : reparsed.filters.hasUnwritableUsers = false := by
        rw [hfilters]
        exact hasUnwritableUsers_readable parsed.filters
      rw [hsame, (readable_of_writable hkept).2] at hleft
      rw [show (Schema.standard.parse later (parsed.canonical clock)).errors.map (·.cause) =
        parsed.filters.writtenCauses from hcauses, hwritten] at hleft
      cases hleft

/-- The equality with 0 users and a later upper bound leave the lower bound -1 by
itself, which the canonical form cannot write. -/
theorem exists_unwritable_query :
    let parsed := Schema.standard.parse ⟨0, 0⟩ "users:0 users:<5"
    let reparsed := Schema.standard.parse ⟨0, 0⟩ (parsed.canonical fun _ => ⟨0, 0⟩)
    parsed.filters = { Filters.empty with usersGt := some (-1), usersLt := some 5 } ∧
      reparsed.errors.map (·.cause) = [.negativeNumberRejected "users" "-1"] ∧
      reparsed.filters = { Filters.empty with usersLt := some 5 } := by
  intro parsed reparsed
  have husers := offers_numbers.2
  have hquery : "users:0 users:<5".toList =
      List.intercalate [' '] [writeNumber "users" .eq 0, writeNumber "users" .lt 5] := by
    decide
  have hfirst := readsTo_number ⟨0, 0⟩ (husers .eq (by simp)) (by decide) (n := 0)
    (by decide) Outcome.empty
  have hsecond := readsTo_number ⟨0, 0⟩ (husers .lt (by simp)) (by decide) (n := 5)
    (by decide)
    { Outcome.empty with filters := Outcome.empty.filters.apply (.number "users" .eq 0) }
  have hread := (ReadsAll.append (.single hfirst) (.single hsecond)).intercalate.outcome_eq
  obtain ⟨_, _, hfilters, _⟩ := parse_eq_outcome Schema.standard ⟨0, 0⟩
    "users:0 users:<5"
  rw [hquery, show [writeNumber "users" .eq 0, writeNumber "users" .lt 5] =
    [writeNumber "users" .eq 0] ++ [writeNumber "users" .lt 5] from rfl, hread] at hfilters
  obtain ⟨_, hreadable, hcauses⟩ :=
    parse_canonical_readable "users:0 users:<5" ⟨0, 0⟩ ⟨0, 0⟩ fun _ => ⟨0, 0⟩
  rw [hfilters] at hreadable hcauses
  exact ⟨hfilters, hcauses, hreadable⟩

end IssueSearch
