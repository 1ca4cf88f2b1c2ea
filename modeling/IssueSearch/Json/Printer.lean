import IssueSearch.Json

/-!
# Writing JSON

Two layouts of a JSON value: on one line without blanks, and over several lines
with two blanks for each level.  An empty array or object stays on one line.

* `Json.quote`: a string with its escapes;
* `Json.compact`, `Json.pretty`: the two layouts.
-/

namespace IssueSearch.Json

/-- One character inside a string: the quote, the backslash and the control
characters are escaped. -/
def escape (c : Char) : String :=
  match c with
  | '"' => "\\\""
  | '\\' => "\\\\"
  | '\x08' => "\\b"
  | '\x0c' => "\\f"
  | '\n' => "\\n"
  | '\r' => "\\r"
  | '\t' => "\\t"
  | c =>
      if c.toNat < 0x20 then
        "\\u00" ++ String.ofList [Nat.digitChar (c.toNat / 16), Nat.digitChar (c.toNat % 16)]
      else c.toString

/-- A string between quotes. -/
def quote (s : String) : String :=
  "\"" ++ String.join (s.toList.map escape) ++ "\""

mutual

/-- A value on one line without blanks. -/
def compact : Json → String
  | null => "null"
  | bool true => "true"
  | bool false => "false"
  | int value => toString value
  | real text => text
  | string value => quote value
  | array items => "[" ++ String.intercalate "," (compactItems items) ++ "]"
  | object members => "\x7b" ++ String.intercalate "," (compactMembers members) ++ "\x7d"

/-- The items of an array on one line. -/
def compactItems : List Json → List String
  | [] => []
  | item :: rest => compact item :: compactItems rest

/-- The members of an object on one line. -/
def compactMembers : List (String × Json) → List String
  | [] => []
  | (name, value) :: rest => (quote name ++ ":" ++ compact value) :: compactMembers rest

end

/-- The lines of a container: each part on its own line, between its two
brackets. -/
def block (left right : String) (indent : Nat) (parts : List String) : String :=
  match parts with
  | [] => left ++ right
  | parts =>
      let inner := "\n" ++ String.ofList (List.replicate (indent + 2) ' ')
      left ++ String.join (parts.zipIdx.map fun (part, i) =>
        (if i = 0 then "" else ",") ++ inner ++ part) ++
        "\n" ++ String.ofList (List.replicate indent ' ') ++ right

mutual

/-- A value over several lines, where the first line is already indented. -/
def prettyAt (indent : Nat) : Json → String
  | array items => block "[" "]" indent (prettyItems (indent + 2) items)
  | object members => block "\x7b" "\x7d" indent (prettyMembers (indent + 2) members)
  | null => "null"
  | bool true => "true"
  | bool false => "false"
  | int value => toString value
  | real text => text
  | string value => quote value

/-- The items of an array over several lines. -/
def prettyItems (indent : Nat) : List Json → List String
  | [] => []
  | item :: rest => prettyAt indent item :: prettyItems indent rest

/-- The members of an object over several lines. -/
def prettyMembers (indent : Nat) : List (String × Json) → List String
  | [] => []
  | (name, value) :: rest =>
      (quote name ++ ": " ++ prettyAt indent value) :: prettyMembers indent rest

end

/-- A value over several lines. -/
def pretty (json : Json) : String :=
  prettyAt 0 json

end IssueSearch.Json
