import IssueSearch.Proofs.Canonical.RoundTrip

/-!
# Canonical forms at different times

How a word that holds a quote is written is found out by reading candidates, and what a
candidate means can depend on the time: it may hold a date that is accepted now and rejected
later.  No such candidate reads as the word, because the value of a filter is shorter than the
filter, and no word of the query is then long enough.

* `readsAsText_word_iff`, `readsAsText_title_iff`: when a candidate reads as the word;
* `canonical_noninterference`: the tests and the canonical form are the same at all times.
-/

namespace IssueSearch

open Time (Instant)

section

variable (now : Instant) {word : List Char}

/-! ## Candidates -/

/-- A word that holds a quote reads as itself if and only if it can stand without quotes
around it and does not start with the head of a filter. -/
theorem readsAsText_word_iff (hquote : '"' ∈ word) (hspace : ' ' ∉ word) :
    readsAsText now word word = true ↔ isBare word = true ∧ FilterHead.read? word = none := by
  constructor
  · intro h
    have hbare := isBare_of_readsAsText now hquote hspace h
    exact ⟨hbare, (readsAsText_bare_iff now hbare hquote).mp h⟩
  · intro h
    exact (readsAsText_bare_iff now h.1 hquote).mpr h.2

/-- A title has no word that is as long as its value is written, if this starts with an
operator. -/
theorem length_word_title_lt {body : List Char} (hsymbol : Operator.leadingSymbol body ≠ []) :
    ∀ found ∈ (Schema.standard.outcome now ("title:".toList ++ body) Outcome.empty).words,
      found.toList.length < body.length := by
  have hname : isName (FilterHead.mk false "title".toList).name = true := by decide
  have hresolve : Schema.standard.resolve? (FilterHead.mk false "title".toList).name =
      some (.field "title") := by decide
  exact length_word_lt_of_symbol now hname hresolve hsymbol

/-- A word that holds a quote is read from a title if and only if it can stand without quotes
around it and does not start with an operator. -/
theorem readsAsText_title_iff (hquote : '"' ∈ word) (hspace : ' ' ∉ word) :
    readsAsText now ("title:".toList ++ word) word = true ↔
      isBare word = true ∧ IsValueStart word := by
  constructor
  · intro h
    have hbare := isBare_of_readsAsText now hquote hspace h
    obtain ⟨_, hstart⟩ := (isBare_iff word).mp hbare
    have hnone : Operator.leadingSymbol word = [] := by
      by_contra hsymbol
      have hshort := length_word_title_lt now hsymbol (String.ofList word)
      rw [(words_of_readsAsText now h hspace).1, String.toList_ofList] at hshort
      exact Nat.lt_irrefl _ (hshort List.mem_cons_self)
    refine ⟨hbare, ?_⟩
    cases word with
    | nil => cases hquote
    | cons c rest =>
      refine ⟨c, rfl, fun hmem => ?_⟩
      rcases List.mem_append.mp (show c ∈ ['>', '<', '!', '='] ++ ['"'] from hmem) with hc | hc
      · exact leadingSymbol_ne_nil rest hc hnone
      · rw [List.mem_singleton.mp hc] at hstart
        exact hstart rfl
  · intro ⟨hbare, hstart⟩
    have hsolid := ((isBare_iff word).mp hbare).1
    exact readsAsText_of_readsTo now (List.ne_nil_of_mem hquote)
      (readsTo_title now hsolid hstart Outcome.empty)

end

/-! ## Two runs -/

/-- The canonical form of a search is the same at all times, and so is the answer of every
test that is made for it: of a word that holds a quote, and of this word as a title. -/
theorem canonical_noninterference (clock other : Clock) (filters : Filters)
    (order : Option SortOrder) :
    filters.canonical clock order = filters.canonical other order ∧
      ∀ word : List Char, '"' ∈ word → ' ' ∉ word → ∀ now later : Instant,
        readsAsText now word word = readsAsText later word word ∧
        readsAsText now ("title:".toList ++ word) word =
          readsAsText later ("title:".toList ++ word) word := by
  refine ⟨canonical_clock clock other filters order, ?_⟩
  intro word hquote hspace now later
  constructor
  · rw [Bool.eq_iff_iff, readsAsText_word_iff now hquote hspace,
      readsAsText_word_iff later hquote hspace]
  · rw [Bool.eq_iff_iff, readsAsText_title_iff now hquote hspace,
      readsAsText_title_iff later hquote hspace]

/-- A word that holds a tab and behind it a date, which is accepted at the one time and
rejected at the other. -/
theorem canonical_noninterference_date :
    let text := "say a\t-last_seen:>\"1d\" now"
    let word := "a\t-last_seen:>\"1d\"".toList
    let now : Instant := ⟨0, 0⟩
    let later : Instant := ⟨-62135596800, 0⟩
    let filters := { Filters.empty with text := some text }
    ('"' ∈ word ∧ ' ' ∉ word ∧ word ∈ text.toList.splitOn ' ') ∧
      (Schema.standard.parse now (String.ofList word)).errors = [] ∧
      (Schema.standard.parse later (String.ofList word)).errors ≠ [] ∧
      filters.canonical (fun _ => now) none = filters.canonical (fun _ => later) none ∧
      readsAsText now word word = readsAsText later word word ∧
      readsAsText now ("title:".toList ++ word) word =
        readsAsText later ("title:".toList ++ word) word := by
  intro text word now later filters
  have hquote : '"' ∈ word := by decide
  have hspace : ' ' ∉ word := by decide
  obtain ⟨hcanonical, htests⟩ :=
    canonical_noninterference (fun _ => now) (fun _ => later) filters none
  exact ⟨⟨hquote, hspace, by decide⟩, by decide +kernel, by decide +kernel, hcanonical,
    htests word hquote hspace now later⟩

end IssueSearch
