/-!
# Words joined by spaces

Joining words by spaces and splitting a text at its spaces.  With a space in front
of each word, rows of words may be put together and taken apart anywhere.

* `spaced`: the words, each behind a space, with `spaced_append` and
  `spaced_eq_cons`;
* `splitOn_intercalate_words`: the pieces of a joined text are those of its words;
* `spaced_splitOn`: the pieces of a word stand for the word.
-/

namespace IssueSearch.Text

/-- The words, each behind a space. -/
def spaced (words : List (List Char)) : List Char :=
  words.flatMap (' ' :: ·)

@[simp] theorem spaced_nil : spaced [] = [] :=
  rfl

@[simp] theorem spaced_append (first second : List (List Char)) :
    spaced (first ++ second) = spaced first ++ spaced second :=
  List.flatMap_append

theorem spaced_singleton (word : List Char) : spaced [word] = ' ' :: word := by
  simp [spaced]

theorem spaced_cons (word : List Char) (words : List (List Char)) :
    spaced (word :: words) = ' ' :: word ++ spaced words := by
  simp [spaced]

/-- But for the first space, the words are joined by spaces. -/
theorem spaced_eq_cons {words : List (List Char)} (h : words ≠ []) :
    spaced words = ' ' :: List.intercalate [' '] words := by
  induction words with
  | nil => exact absurd rfl h
  | cons word words ih =>
    cases words with
    | nil => rw [spaced_singleton, List.intercalate_singleton]
    | cons next words =>
      rw [spaced_cons, ih (List.cons_ne_nil _ _), List.intercalate_cons_cons]
      simp

/-- Rows of words that agree with spaces in front agree when they are joined. -/
theorem intercalate_eq_of_spaced_eq {first second : List (List Char)}
    (h : spaced first = spaced second) :
    List.intercalate [' '] first = List.intercalate [' '] second := by
  cases first with
  | nil =>
    cases second with
    | nil => rfl
    | cons word words => simp [spaced] at h
  | cons word words =>
    cases second with
    | nil => simp [spaced] at h
    | cons other others =>
      rw [spaced_eq_cons (List.cons_ne_nil _ _), spaced_eq_cons (List.cons_ne_nil _ _)] at h
      exact (List.cons.inj h).2

/-- The characters of joined words are those of the words, and spaces. -/
theorem mem_intercalate {words : List (List Char)} {c : Char}
    (h : c ∈ List.intercalate [' '] words) : c = ' ' ∨ ∃ word ∈ words, c ∈ word := by
  cases words with
  | nil => cases h
  | cons word words =>
    have hmem : c ∈ spaced (word :: words) := by
      rw [spaced_eq_cons (List.cons_ne_nil _ _)]
      exact List.mem_cons_of_mem _ h
    obtain ⟨other, hother, hc⟩ := List.mem_flatMap.mp hmem
    rcases List.mem_cons.mp hc with hc | hc
    · exact Or.inl hc
    · exact Or.inr ⟨other, hother, hc⟩

/-- A text without spaces is joined from no two words. -/
theorem eq_singleton_of_intercalate {words : List (List Char)} {text : List Char}
    (h : List.intercalate [' '] words = text) (hne : text ≠ []) (hspace : ' ' ∉ text) :
    words = [text] := by
  match words, h with
  | [], h => exact absurd h.symm hne
  | [word], h => rw [← h, List.intercalate_singleton]
  | word :: next :: words, h =>
    refine absurd ?_ hspace
    rw [← h, List.intercalate_cons_cons]
    simp

/-- A piece between two spaces holds none. -/
theorem not_mem_of_mem_splitOn {text piece : List Char} (h : piece ∈ text.splitOn ' ') :
    ' ' ∉ piece := by
  induction text generalizing piece with
  | nil =>
    rw [List.splitOn_nil, List.mem_singleton] at h
    rw [h]
    exact List.not_mem_nil
  | cons c text ih =>
    rw [List.splitOn_cons_eq_if_modifyHead] at h
    split at h
    · rcases List.mem_cons.mp h with rfl | h
      · exact List.not_mem_nil
      · exact ih h
    · next hc =>
      cases hpieces : text.splitOn ' ' with
      | nil => exact absurd hpieces (List.splitOn_ne_nil ' ' text)
      | cons first pieces =>
        rw [hpieces, List.modifyHead_cons] at h
        rcases List.mem_cons.mp h with rfl | h
        · have hfirst := ih (hpieces ▸ List.mem_cons_self)
          simp only [beq_iff_eq] at hc
          simp [hfirst, Ne.symm hc]
        · exact ih (hpieces ▸ List.mem_cons_of_mem _ h)

/-- A piece has no other characters than the text. -/
theorem mem_of_mem_splitOn {text piece : List Char} {c : Char} (h : piece ∈ text.splitOn ' ')
    (hc : c ∈ piece) : c ∈ text := by
  have hmem : c ∈ spaced (text.splitOn ' ') :=
    List.mem_flatMap.mpr ⟨piece, h, List.mem_cons_of_mem _ hc⟩
  rw [spaced_eq_cons (List.splitOn_ne_nil ' ' text), List.intercalate_splitOn] at hmem
  rcases List.mem_cons.mp hmem with rfl | hmem
  · exact absurd hc (not_mem_of_mem_splitOn h)
  · exact hmem

/-- The pieces of a word stand for the word. -/
theorem spaced_splitOn (word : List Char) : spaced (word.splitOn ' ') = spaced [word] := by
  rw [spaced_eq_cons (List.splitOn_ne_nil ' ' word), List.intercalate_splitOn, spaced_singleton]

/-- The pieces of joined words are the pieces of the words. -/
theorem splitOn_intercalate_words {words : List (List Char)} (h : words ≠ []) :
    (List.intercalate [' '] words).splitOn ' ' = words.flatMap (·.splitOn ' ') := by
  induction words with
  | nil => exact absurd rfl h
  | cons word words ih =>
    cases words with
    | nil => simp
    | cons next words =>
      rw [List.intercalate_cons_cons, List.append_assoc, List.singleton_append,
        List.splitOn_append_cons_self, ih (List.cons_ne_nil _ _)]
      rfl

end IssueSearch.Text
