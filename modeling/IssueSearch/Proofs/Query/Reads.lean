import IssueSearch.Proofs.Query.Outcome
import IssueSearch.Proofs.Token.Part

/-!
# Reading a query part by part

A query that is put together from parts with spaces between them is read part by
part: each part takes the outcome of the parts before it one step further.

* `ReadsTo`: a text takes one outcome to another, whatever follows a seam;
* `ReadsAll`: the parts of a row do so in turn;
* `outcome_of_readLexeme?`, `readsTo_of_readLexeme?`: a part that is one lexeme;
* `ReadsAll.intercalate`: the parts with spaces between them.
-/

namespace IssueSearch

open Text (isBlank IsSeam)
open Time (Instant)

/-- Before any seam, reading the text takes an outcome to another one. -/
def ReadsTo (schema : Schema) (now : Instant) (text : List Char) (before after : Outcome) : Prop :=
  ∀ rest, IsSeam rest → schema.outcome now (text ++ rest) before = schema.outcome now rest after

/-- Reading the parts one after the other takes an outcome to another one. -/
inductive ReadsAll (schema : Schema) (now : Instant) :
    List (List Char) → Outcome → Outcome → Prop where
  | nil (outcome) : ReadsAll schema now [] outcome outcome
  | cons {part parts before between after} (head : ReadsTo schema now part before between)
      (tail : ReadsAll schema now parts between after) :
      ReadsAll schema now (part :: parts) before after

section

variable {schema : Schema} {now : Instant}

/-- Nothing is read from no text. -/
theorem ReadsTo.nil (outcome : Outcome) : ReadsTo schema now [] outcome outcome :=
  fun _ _ => rfl

/-- Two texts with a space between them are read one after the other. -/
theorem ReadsTo.append {first second : List Char} {before between after : Outcome}
    (hfirst : ReadsTo schema now first before between)
    (hsecond : ReadsTo schema now second between after) :
    ReadsTo schema now (first ++ ' ' :: second) before after := by
  intro rest hrest
  have hspace : isBlank ' ' = true := by decide
  rw [List.append_assoc, List.cons_append, hfirst _ (Text.isSeam_cons _ hspace),
    outcome_blank hspace, hsecond rest hrest]

/-- The outcome of a text with nothing behind it. -/
theorem ReadsTo.outcome_eq {text : List Char} {before after : Outcome}
    (h : ReadsTo schema now text before after) : schema.outcome now text before = after := by
  have hend := h [] Text.isSeam_nil
  rwa [List.append_nil, outcome_nil] at hend

/-- A text that starts with a lexeme takes the outcome one step further, and goes on behind
it. -/
theorem outcome_of_readLexeme? {text : List Char} {reading : Reading}
    (hread : readLexeme? schema text = some reading) (before : Outcome) :
    schema.outcome now text before =
      schema.outcome now reading.rest (before.step (reading.effect schema now)) := by
  obtain ⟨c, rest, rfl, hc⟩ := exists_cons_of_readLexeme? hread
  exact outcome_read hc hread before

/-- A part that is read as one lexeme takes the outcome one step further, by the
effect of the lexeme. -/
theorem readsTo_of_readLexeme? {part : List Char} {lexeme : Lexeme} {effect : Effect}
    (hread : ∀ rest, IsSeam rest →
      readLexeme? schema (part ++ rest) = some ⟨lexeme, part, rest⟩)
    (heffect : (Reading.mk lexeme part []).effect schema now = effect) (before : Outcome) :
    ReadsTo schema now part before (before.step effect) := by
  intro rest hrest
  rw [← heffect]
  exact outcome_of_readLexeme? (hread rest hrest) before

/-- The outcome behind a row may be given in another form. -/
theorem ReadsAll.of_eq {parts : List (List Char)} {before after other : Outcome}
    (h : ReadsAll schema now parts before after) (heq : after = other) :
    ReadsAll schema now parts before other :=
  heq ▸ h

/-- One part. -/
theorem ReadsAll.single {part : List Char} {before after : Outcome}
    (h : ReadsTo schema now part before after) : ReadsAll schema now [part] before after :=
  .cons h (.nil after)

/-- Two rows of parts are read one after the other. -/
theorem ReadsAll.append {first second : List (List Char)} {before between after : Outcome}
    (hfirst : ReadsAll schema now first before between)
    (hsecond : ReadsAll schema now second between after) :
    ReadsAll schema now (first ++ second) before after := by
  induction hfirst with
  | nil => exact hsecond
  | cons head _ ih => exact .cons head (ih hsecond)

/-- The parts with spaces between them are read part by part. -/
theorem ReadsAll.intercalate {parts : List (List Char)} {before after : Outcome}
    (h : ReadsAll schema now parts before after) :
    ReadsTo schema now (List.intercalate [' '] parts) before after := by
  induction h with
  | nil outcome => exact ReadsTo.nil outcome
  | @cons part parts _ _ _ head tail ih =>
    cases parts with
    | nil =>
      cases tail
      rwa [List.intercalate_singleton]
    | cons next parts =>
      rw [List.intercalate_cons_cons, List.append_assoc, List.singleton_append]
      exact head.append ih

end

end IssueSearch
