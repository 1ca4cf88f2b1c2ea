import IssueSearch.Proofs.Text.Blank
import IssueSearch.Token.Scan

/-!
# The steps of the scanner

At each place the scanner passes over blanks and then reads one lexeme.  Some
rule reads at every character that is no blank, so nothing else is ever passed
over.

* `exists_readLexeme?`: a rule reads at every solid character;
* `scanFrom_of_blank`, `scanFrom_of_read`: the two steps;
* `scanFrom_induction`: what holds of a blank text and is kept by reading one
  lexeme holds of the tokens of every text;
* `exists_reading_at`: every token is a lexeme that some rule has read where it stands;
* `Token.move`, `scanFrom_eq_move`: a text has the same tokens wherever it stands,
  but for their places.
-/

namespace IssueSearch

open Text (isBlank byteLength)

/-- Some rule reads at every solid character. -/
theorem exists_readLexeme? (schema : Schema) {c : Char} (rest : List Char)
    (h : isBlank c = false) : ∃ reading, readLexeme? schema (c :: rest) = some reading := by
  have hword : (readWord? (c :: rest)).isSome = true := by
    simp [readWord?, (Text.isSolid_iff c).mpr h]
  rw [← Option.isSome_iff_exists]
  simp [readLexeme?, Option.isSome_or, hword]

/-- A blank text has no tokens. -/
theorem scanFrom_of_blank (schema : Schema) (start : Nat) {text : List Char}
    (h : ∀ c ∈ text, isBlank c = true) : scanFrom schema start text = [] := by
  have hnil : text.dropWhile isBlank = [] := by
    rw [List.dropWhile_eq_nil_iff]
    exact h
  rw [scanFrom]
  split
  · rfl
  · next hcons => rw [hnil] at hcons; cases hcons

/-- Behind blanks the scanner reads one lexeme and goes on behind it. -/
theorem scanFrom_of_read {schema : Schema} (start : Nat) {gap rest : List Char} {c : Char}
    {reading : Reading} (hgap : ∀ c ∈ gap, isBlank c = true) (hc : isBlank c = false)
    (hread : readLexeme? schema (c :: rest) = some reading) :
    scanFrom schema start (gap ++ c :: rest) =
      reading.token (start + byteLength gap) ::
        scanFrom schema (start + byteLength gap + byteLength reading.raw) reading.rest := by
  have hdrop : (gap ++ c :: rest).dropWhile isBlank = c :: rest := by
    rw [List.dropWhile_append_of_pos hgap, List.dropWhile_cons_of_neg (by simp [hc])]
  have htake : (gap ++ c :: rest).takeWhile isBlank = gap := by
    rw [List.takeWhile_append_of_pos hgap, List.takeWhile_cons_of_neg (by simp [hc]),
      List.append_nil]
  rw [scanFrom]
  split
  · next hnil => rw [hdrop] at hnil; cases hnil
  · next d tail hcons =>
    rw [hdrop] at hcons
    cases hcons
    split
    · next found hfound =>
      rw [hread] at hfound
      cases hfound
      simp only [htake]
      rfl
    · next hnone => rw [hread] at hnone; cases hnone

/-- A text is blank, or it is blanks and then a solid character. -/
theorem blank_or_gap (text : List Char) :
    (∀ c ∈ text, isBlank c = true) ∨
      ∃ gap c rest, text = gap ++ c :: rest ∧ (∀ c ∈ gap, isBlank c = true) ∧
        isBlank c = false := by
  cases hdrop : text.dropWhile isBlank with
  | nil =>
    left
    rwa [List.dropWhile_eq_nil_iff] at hdrop
  | cons c rest =>
    right
    refine ⟨text.takeWhile isBlank, c, rest, ?_, fun d hd => ?_, ?_⟩
    · rw [← hdrop, List.takeWhile_append_dropWhile]
    · have hall := List.all_takeWhile (p := isBlank) (l := text)
      exact List.all_eq_true.mp hall d hd
    · have hhead := List.head?_dropWhile_not isBlank text
      simpa [hdrop] using hhead

/-- What holds of a blank text and is kept by reading one lexeme holds of the
tokens of every text. -/
theorem scanFrom_induction (schema : Schema)
    {motive : Nat → List Char → List Token → Prop}
    (blank : ∀ start text, (∀ c ∈ text, isBlank c = true) → motive start text [])
    (read : ∀ start gap c rest reading tokens, (∀ c ∈ gap, isBlank c = true) →
      isBlank c = false → readLexeme? schema (c :: rest) = some reading →
      motive (start + byteLength gap + byteLength reading.raw) reading.rest tokens →
      motive start (gap ++ c :: rest) (reading.token (start + byteLength gap) :: tokens))
    (start : Nat) (text : List Char) : motive start text (scanFrom schema start text) := by
  -- induction on the length: the rest behind a lexeme is shorter than the text
  induction hlength : text.length using Nat.strongRecOn generalizing start text with
  | ind length ih =>
    rcases blank_or_gap text with hblank | ⟨gap, c, rest, rfl, hgap, hc⟩
    · rw [scanFrom_of_blank schema start hblank]
      exact blank start text hblank
    · obtain ⟨reading, hread⟩ := exists_readLexeme? schema rest hc
      have hshorter := length_rest_readLexeme?_lt hread
      rw [List.length_append] at hlength
      rw [scanFrom_of_read start hgap hc hread]
      exact read start gap c rest reading _ hgap hc hread
        (ih reading.rest.length (by omega) _ reading.rest rfl)

/-- Every token is a lexeme that was read where it stands. -/
theorem exists_reading_at (schema : Schema) (start : Nat) (text : List Char) :
    ∀ token ∈ scanFrom schema start text, ∃ before part reading, text = before ++ part ∧
      readLexeme? schema part = some reading ∧
      token = reading.token (start + byteLength before) := by
  refine scanFrom_induction schema
    (motive := fun start text tokens => ∀ token ∈ tokens, ∃ before part reading,
      text = before ++ part ∧ readLexeme? schema part = some reading ∧
      token = reading.token (start + byteLength before))
    ?_ ?_ start text
  · intro start text _ token hmem
    cases hmem
  · intro start gap c rest reading tokens _ _ hread ih token hmem
    rcases List.mem_cons.mp hmem with rfl | hmem
    · exact ⟨gap, c :: rest, reading, rfl, hread, rfl⟩
    · obtain ⟨before, part, found, hrest, hfound, rfl⟩ := ih token hmem
      refine ⟨gap ++ (reading.raw ++ before), part, found, ?_, hfound, ?_⟩
      · rw [← (readLexeme?_parts hread).1, hrest]
        simp only [List.append_assoc]
      · simp only [Text.byteLength_append, Nat.add_assoc]

/-! ## Places -/

/-- The token with its two offsets changed. -/
def Token.move (place : Nat → Nat) (token : Token) : Token :=
  { token with startIndex := place token.startIndex, endIndex := place token.endIndex }

/-- A text that stands further behind has its tokens further behind. -/
theorem scanFrom_add (schema : Schema) (offset start : Nat) (text : List Char) :
    scanFrom schema (start + offset) text =
      (scanFrom schema start text).map (Token.move (· + offset)) := by
  refine scanFrom_induction schema
    (motive := fun start text tokens => scanFrom schema (start + offset) text =
      tokens.map (Token.move (· + offset)))
    ?_ ?_ start text
  · intro start text hblank
    rw [scanFrom_of_blank schema _ hblank]
    rfl
  · intro start gap c rest reading tokens hgap hc hread ih
    rw [scanFrom_of_read _ hgap hc hread, List.map_cons, ← ih]
    have hplace : start + offset + byteLength gap = start + byteLength gap + offset := by omega
    have hend : start + byteLength gap + offset + byteLength reading.raw =
        start + byteLength gap + byteLength reading.raw + offset := by omega
    rw [hplace, hend]
    simp [Reading.token, Token.move, hend]

/-- The tokens of a text behind another one. -/
theorem scanFrom_eq_move (schema : Schema) (start : Nat) (text : List Char) :
    scanFrom schema start text = (scanFrom schema 0 text).map (Token.move (· + start)) := by
  have h := scanFrom_add schema start 0 text
  rwa [Nat.zero_add] at h

end IssueSearch
