/-!
# The head of a filter

A filter starts with an optional dash, an identifier and a colon.  The scanner,
the check of words that look like filters and the completion of a word all read
this head.

* `isNameStart`, `isNamePart`: the characters of an identifier;
* `FilterHead.read?`: the head at the start of a text, with what follows it;
* `FilterHead.readName?_eq_some_iff`: a name is read exactly when the text
  starts with it and a colon;
* `FilterHead.read?_parts`: the head and the rest are the whole text.
-/

namespace IssueSearch

/-- A character that an identifier may start with. -/
def isNameStart (c : Char) : Bool :=
  c.isAlpha || c == '_'

/-- A character of an identifier. -/
def isNamePart (c : Char) : Bool :=
  c.isAlphanum || c == '_'

/-- An identifier: a letter or underscore, then letters, digits and
underscores, all of them ASCII. -/
def isName : List Char → Bool
  | [] => false
  | c :: rest => isNameStart c && rest.all isNamePart

/-- The head of a filter: `[-]name:`. -/
structure FilterHead where
  negated : Bool
  name : List Char
  deriving Repr, DecidableEq

namespace FilterHead

/-- The characters of a head. -/
def raw (head : FilterHead) : List Char :=
  (if head.negated then ['-'] else []) ++ head.name ++ [':']

/-- A name and a colon at the start of a text, with what follows. -/
def readName? (text : List Char) : Option (List Char × List Char) :=
  let name := text.takeWhile isNamePart
  match text.dropWhile isNamePart with
  | ':' :: rest => if isName name then some (name, rest) else none
  | _ => none

/-- The head at the start of a text, with what follows. -/
def read? : List Char → Option (FilterHead × List Char)
  | '-' :: rest => (readName? rest).map fun (name, rest) => (⟨true, name⟩, rest)
  | text => (readName? text).map fun (name, rest) => (⟨false, name⟩, rest)

/-! ## Laws -/

/-- An identifier may go on with every character that it may start with. -/
theorem isNamePart_of_isNameStart (c : Char) (h : isNameStart c = true) :
    isNamePart c = true := by
  simp only [isNameStart, isNamePart, Char.isAlphanum, Bool.or_eq_true] at h ⊢
  rcases h with h | h
  · exact Or.inl (Or.inl h)
  · exact Or.inr h

/-- An identifier has no other characters than those of identifiers. -/
theorem isNamePart_of_mem {name : List Char} (h : isName name = true) :
    ∀ c ∈ name, isNamePart c = true := by
  intro d hd
  cases name with
  | nil => cases hd
  | cons c r =>
    simp only [isName, Bool.and_eq_true, List.all_eq_true] at h
    rcases List.mem_cons.mp hd with hd | hd
    · exact isNamePart_of_isNameStart d (hd ▸ h.1)
    · exact h.2 d hd

/-- A name and a colon are read when, and only when, the text starts with
them. -/
theorem readName?_eq_some_iff (text name rest : List Char) :
    readName? text = some (name, rest) ↔ isName name = true ∧ text = name ++ ':' :: rest := by
  unfold readName?
  constructor
  · intro h
    have split_text : text.takeWhile isNamePart ++ text.dropWhile isNamePart = text :=
      List.takeWhile_append_dropWhile
    cases hd : text.dropWhile isNamePart with
    | nil => simp [hd] at h
    | cons c r =>
      simp only [hd] at h
      split at h
      · next heq =>
        obtain ⟨rfl, rfl⟩ := List.cons.inj heq
        split at h
        · next hn =>
          simp only [Option.some.injEq, Prod.mk.injEq] at h
          obtain ⟨rfl, rfl⟩ := h
          exact ⟨hn, by rw [← hd, split_text]⟩
        · cases h
      · cases h
  · rintro ⟨hn, rfl⟩
    have parts := isNamePart_of_mem hn
    have colon : isNamePart ':' = false := by decide
    have before : (name ++ ':' :: rest).takeWhile isNamePart = name := by
      simp [List.takeWhile_append_of_pos parts, colon]
    have after : (name ++ ':' :: rest).dropWhile isNamePart = ':' :: rest := by
      simp [List.dropWhile_append_of_pos parts, colon]
    simp [before, after, hn]

/-- A head and what follows it are the whole text. -/
theorem read?_parts {text rest : List Char} {head : FilterHead}
    (h : read? text = some (head, rest)) : head.raw ++ rest = text := by
  unfold read? at h
  split at h <;> simp only [Option.map_eq_some_iff, Prod.exists, Prod.mk.injEq] at h
  all_goals
    obtain ⟨name, _, hread, rfl, rfl⟩ := h
    obtain ⟨_, htext⟩ := (readName?_eq_some_iff _ _ _).mp hread
    simp [raw, htext]

end FilterHead

end IssueSearch
