import IssueSearch.Toml.Scalar
import IssueSearch.Toml.Text
import IssueSearch.Toml.Tree

/-!
# Reading a settings file

A settings file is a row of lines: keys with values, headers of tables, and
comments.

* `readKey?`: a dotted key;
* `readValue?`, `readItems?`, `readMembers?`: values, which may nest;
* `readStatement?`: one line, which changes the tree;
* `read?`: the whole file.
-/

namespace IssueSearch.Toml

/-! ## Blanks and comments -/

/-- The text after blanks on a line. -/
def skipGap (text : List Char) : List Char :=
  text.dropWhile isGap

/-- The text after blanks and a comment, if there is one. -/
def skipComment (text : List Char) : List Char :=
  match skipGap text with
  | '#' :: rest => rest.dropWhile isPlain
  | rest => rest

/-- The text after blanks, ends of lines and comments. -/
def skipLines (text : List Char) : List Char :=
  match text with
  | [] => []
  | c :: rest =>
      if isGap c || c = '\n' then skipLines rest
      else if c = '\r' && rest.head? = some '\n' then skipLines rest
      else if c = '#' then skipLines (rest.dropWhile isPlain)
      else c :: rest
termination_by text.length
decreasing_by
  · simp
  · simp
  · have := (List.dropWhile_suffix isPlain (l := rest)).length_le
    simp
    omega

/-! ## Keys -/

/-- A character of a key without quotes. -/
def isKeyPart (c : Char) : Bool :=
  c.isAlphanum || c == '_' || c == '-'

/-- One part of a key, with what follows. -/
def readKeyPart? (text : List Char) : Option (String × List Char) :=
  match readLine? text with
  | some (name, rest) => some (String.ofList name, rest)
  | none =>
      let name := text.takeWhile isKeyPart
      if name.isEmpty then none else some (String.ofList name, text.dropWhile isKeyPart)

/-- The deepest nesting of values and the greatest number of parts of a key. -/
def maxDepth : Nat :=
  79

/-- A dotted key of at most so many parts, with what follows. -/
def readKey? : Nat → List Char → Option (List String × List Char)
  | 0, _ => none
  | parts + 1, text => do
      let (name, rest) ← readKeyPart? (skipGap text)
      match skipGap rest with
      | '.' :: rest => (readKey? parts rest).map fun (names, rest) => (name :: names, rest)
      | rest => some ([name], rest)

/-! ## Values -/

/-- A string as a value, with what follows. -/
def readStringValue? (text : List Char) : Option (Json × List Char) :=
  (readString? text).map fun (value, rest) => (.string (String.ofList value), rest)

mutual

/-- A value, with what follows.  No step of the reading needs more than `fuel`
further ones, and values nest at most `depth` deep. -/
def readValue? (fuel depth : Nat) (text : List Char) : Option (Json × List Char) :=
  match fuel with
  | 0 => none
  | fuel + 1 =>
      match text with
      | '[' :: rest =>
          if depth = 0 then none
          else (readItems? fuel (depth - 1) (skipLines rest)).map fun (items, rest) =>
            (.array items, rest)
      | '\x7b' :: rest =>
          if depth = 0 then none
          else match skipGap rest with
            | '\x7d' :: rest => some (.object [], rest)
            | rest =>
                (readMembers? fuel (depth - 1) (.table .dotted []) rest).map fun (node, rest) =>
                  (node.toJson, rest)
      | '"' :: _ => readStringValue? text
      | '\'' :: _ => readStringValue? text
      | text => readScalar? text

/-- The items of an array and its closing bracket. -/
def readItems? (fuel depth : Nat) (text : List Char) : Option (List Json × List Char) :=
  match fuel with
  | 0 => none
  | fuel + 1 =>
      match text with
      | ']' :: rest => some ([], rest)
      | text => do
          let (item, rest) ← readValue? fuel depth text
          match skipLines rest with
          | ',' :: rest =>
              let (items, rest) ← readItems? fuel depth (skipLines rest)
              some (item :: items, rest)
          | ']' :: rest => some ([item], rest)
          | _ => none

/-- The members of a table on one line and its closing brace. -/
def readMembers? (fuel depth : Nat) (node : Node) (text : List Char) :
    Option (Node × List Char) :=
  match fuel with
  | 0 => none
  | fuel + 1 => do
      let (path, rest) ← readKey? maxDepth text
      let rest ← Time.readChar? '=' rest
      let (json, rest) ← readValue? fuel depth (skipGap rest)
      let node ← node.insert? json path
      match skipGap rest with
      | ',' :: rest => readMembers? fuel depth node rest
      | '\x7d' :: rest => some (node, rest)
      | _ => none

end

/-! ## Lines -/

/-- What has been read: the tree, and the path of the table that was opened
last. -/
structure State where
  root : Node
  path : List String

/-- A key with its value, in the table that was opened last. -/
def readAssignment? (state : State) (text : List Char) : Option (State × List Char) := do
  let (path, rest) ← readKey? maxDepth text
  let rest ← Time.readChar? '=' rest
  let rest := skipGap rest
  let (json, rest) ← readValue? (rest.length + 1) maxDepth rest
  let root ← state.root.update? (fun table => table.insert? json path) state.path
  some ({ state with root }, rest)

/-- The header of a table, after its bracket. -/
def readHeader? (state : State) (text : List Char) : Option (State × List Char) := do
  let (path, rest) ← readKey? maxDepth text
  let rest ← Time.readChar? ']' rest
  let root ← state.root.open? path
  some (⟨root, path⟩, rest)

/-- The header of a row of tables, after its brackets. -/
def readRowHeader? (state : State) (text : List Char) : Option (State × List Char) := do
  let (path, rest) ← readKey? maxDepth text
  let rest ← Time.readChar? ']' rest
  let rest ← Time.readChar? ']' rest
  let root ← state.root.append? path
  some (⟨root, path⟩, rest)

/-- One line up to its comment or end. -/
def readStatement? (state : State) (text : List Char) : Option (State × List Char) :=
  match skipGap text with
  | [] => some (state, [])
  | '[' :: '[' :: rest => readRowHeader? state rest
  | '[' :: rest => readHeader? state rest
  | c :: rest =>
      if c = '#' || c = '\n' || c = '\r' then some (state, c :: rest)
      else readAssignment? state (c :: rest)

/-- The lines of a file, at most `fuel` of them. -/
def readLines? (fuel : Nat) (state : State) (text : List Char) : Option Node :=
  match fuel with
  | 0 => none
  | fuel + 1 => do
      let (state, rest) ← readStatement? state text
      match skipComment rest with
      | [] => some state.root
      | rest =>
          let rest ← readNewline? rest
          readLines? fuel state rest

/-- The value of a settings file; a byte order mark in front is passed over. -/
def read? (text : String) : Option Json :=
  let chars := match text.toList with
    | '\ufeff' :: rest => rest
    | chars => chars
  (readLines? (chars.length + 1) ⟨.table .header [], []⟩ chars).map Node.toJson

end IssueSearch.Toml
