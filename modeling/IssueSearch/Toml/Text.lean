/-!
# Strings of a settings file

The settings file is written in TOML.  A string stands between quotes, in which
a backslash starts an escape, or between apostrophes, in which nothing does;
three of them hold a text over several lines.

* `isPlain`: the characters that need no escape;
* `readNewline?`: an end of a line;
* `readEscape?`: what a backslash stands for;
* `readBasic?`, `readLiteral?`, `readBasicLines?`, `readLiteralLines?`: the four
  kinds of strings, after what opens them;
* `readString?`: any of them.
-/

namespace IssueSearch.Toml

/-- A tab, or a character that is not a control character. -/
def isPlain (c : Char) : Bool :=
  c == '\t' || (0x20 ≤ c.toNat && c.toNat != 0x7F)

/-- What follows an end of a line. -/
def readNewline? : List Char → Option (List Char)
  | '\n' :: rest => some rest
  | '\r' :: '\n' :: rest => some rest
  | _ => none

/-- The value of a hexadecimal digit. -/
def hexDigit? (c : Char) : Option Nat :=
  if '0' ≤ c && c ≤ '9' then some (c.toNat - '0'.toNat)
  else if 'a' ≤ c && c ≤ 'f' then some (c.toNat - 'a'.toNat + 10)
  else if 'A' ≤ c && c ≤ 'F' then some (c.toNat - 'A'.toNat + 10)
  else none

/-- The character whose code point is written in hexadecimal digits. -/
def readCodePoint? (digits : List Char) : Option Char := do
  let values ← digits.mapM hexDigit?
  let n := values.foldl (fun n value => n * 16 + value) 0
  if n.isValidChar then some (Char.ofNat n) else none

/-- The character that the text after a backslash stands for, with what
follows. -/
def readEscape? : List Char → Option (Char × List Char)
  | 'b' :: rest => some ('\x08', rest)
  | 't' :: rest => some ('\t', rest)
  | 'n' :: rest => some ('\n', rest)
  | 'f' :: rest => some ('\x0c', rest)
  | 'r' :: rest => some ('\r', rest)
  | '"' :: rest => some ('"', rest)
  | '\\' :: rest => some ('\\', rest)
  | 'u' :: rest =>
      if 4 ≤ rest.length then (readCodePoint? (rest.take 4)).map fun c => (c, rest.drop 4)
      else none
  | 'U' :: rest =>
      if 8 ≤ rest.length then (readCodePoint? (rest.take 8)).map fun c => (c, rest.drop 8)
      else none
  | _ => none

/-- What follows an escape is shorter than the text after the backslash. -/
theorem readEscape?_length {text rest : List Char} {c : Char}
    (h : readEscape? text = some (c, rest)) : rest.length < text.length := by
  unfold readEscape? at h
  split at h
  case h_8 | h_9 =>
    split at h
    · simp only [Option.map_eq_some_iff, Prod.mk.injEq] at h
      obtain ⟨_, _, _, rfl⟩ := h
      simp only [List.length_drop, List.length_cons]
      omega
    · cases h
  case h_10 => cases h
  all_goals
    cases h
    simp

/-- A string on one line, after the quote. -/
def readBasic? (text : List Char) : Option (List Char × List Char) :=
  match text with
  | [] => none
  | c :: rest =>
      if c = '"' then some ([], rest)
      else if c = '\\' then
        match _h : readEscape? rest with
        | some (c, rest) => (readBasic? rest).map fun (value, rest) => (c :: value, rest)
        | none => none
      else if isPlain c then (readBasic? rest).map fun (value, rest) => (c :: value, rest)
      else none
termination_by text.length
decreasing_by
  · have shorter := readEscape?_length _h
    simp only [List.length_cons]
    omega
  · simp

/-- A string without escapes on one line, after the apostrophe. -/
def readLiteral? : List Char → Option (List Char × List Char)
  | [] => none
  | c :: rest =>
      if c = '\'' then some ([], rest)
      else if isPlain c then (readLiteral? rest).map fun (value, rest) => (c :: value, rest)
      else none

/-- The end of a text over several lines: three marks, before which one or two
more belong to the text. -/
def readLinesEnd? (mark : Char) (text : List Char) : Option (List Char × List Char) :=
  let marks := (text.take 5).takeWhile (· = mark)
  if 3 ≤ marks.length then some (marks.drop 3, text.drop marks.length) else none

/-- A blank on a line. -/
def isGap (c : Char) : Bool :=
  c == ' ' || c == '\t'

/-- Whether nothing but blanks stand before the end of the line. -/
def endsLine (text : List Char) : Bool :=
  (readNewline? (text.dropWhile isGap)).isSome

/-- A text over several lines, after what opens it.  After a backslash at the
end of a line, `joining` passes over blanks and ends of lines. -/
def readBasicLines? (joining : Bool) (text : List Char) : Option (List Char × List Char) :=
  match text with
  | [] => none
  | c :: rest =>
      if joining && (isGap c || c = '\n') then readBasicLines? true rest
      else if c = '\r' then
        if rest.head? = some '\n' then readBasicLines? joining rest else none
      else
        match readLinesEnd? '"' (c :: rest) with
        | some found => some found
        | none =>
            if c = '\\' then
              if endsLine rest then readBasicLines? true rest
              else
                match _h : readEscape? rest with
                | some (c, rest) =>
                    (readBasicLines? false rest).map fun (value, rest) => (c :: value, rest)
                | none => none
            else if isPlain c || c = '\n' then
              (readBasicLines? false rest).map fun (value, rest) => (c :: value, rest)
            else none
termination_by text.length
decreasing_by
  all_goals simp only [List.length_cons]
  all_goals try have shorter := readEscape?_length _h
  all_goals omega

/-- A text over several lines without escapes, after what opens it. -/
def readLiteralLines? : List Char → Option (List Char × List Char)
  | [] => none
  | c :: rest =>
      match readLinesEnd? '\'' (c :: rest) with
      | some found => some found
      | none =>
          if c = '\r' then
            if rest.head? = some '\n' then readLiteralLines? rest else none
          else if isPlain c || c = '\n' then
            (readLiteralLines? rest).map fun (value, rest) => (c :: value, rest)
          else none

/-- A text over several lines does not hold the end of the line that opens
it. -/
def dropNewline (text : List Char) : List Char :=
  (readNewline? text).getD text

/-- A string on one line. -/
def readLine? : List Char → Option (List Char × List Char)
  | '"' :: rest => readBasic? rest
  | '\'' :: rest => readLiteral? rest
  | _ => none

/-- A string of any kind. -/
def readString? : List Char → Option (List Char × List Char)
  | '"' :: '"' :: '"' :: rest => readBasicLines? false (dropNewline rest)
  | '\'' :: '\'' :: '\'' :: rest => readLiteralLines? (dropNewline rest)
  | text => readLine? text

end IssueSearch.Toml
