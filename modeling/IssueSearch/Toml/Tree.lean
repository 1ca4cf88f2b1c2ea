import IssueSearch.Json

/-!
# The tree of a settings file

A settings file is a tree of tables.  How a table came about decides what may
still be added to it: no key is given twice, no table is opened twice, and a
value is closed.

* `Origin`, `Node`: the tables, the rows of tables and the values;
* `Node.insert?`: a value under a dotted key;
* `Node.open?`, `Node.append?`: opening a table and adding a row;
* `Node.update?`: a change inside the table that was opened last;
* `Node.toJson`: the tree as one value.
-/

namespace IssueSearch.Toml

/-- How a table came about. -/
inductive Origin where
  /-- A header opened it. -/
  | header
  /-- A header opened a table inside it. -/
  | path
  /-- A dotted key goes through it. -/
  | dotted
  deriving Repr, DecidableEq

/-- A part of the tree. -/
inductive Node where
  | value (json : Json)
  | table (origin : Origin) (members : List (String × Node))
  /-- Tables of one name, the last one first. -/
  | rows (tables : List Node)
  deriving Inhabited

namespace Node

/-- The members of a table with one of them changed or added at the end. -/
def alter? (name : String) (change : Option Node → Option Node) :
    List (String × Node) → Option (List (String × Node))
  | [] => (change none).map fun node => [(name, node)]
  | (other, node) :: rest =>
      if other = name then (change (some node)).map fun node => (name, node) :: rest
      else (alter? name change rest).map fun rest => (other, node) :: rest

/-- A value under a key in a table.  A dotted key makes the tables that it goes
through, and goes through no table that a header has opened. -/
def insert? (json : Json) : List String → Node → Option Node
  | [], _ => none
  | [name], table origin members =>
      (alter? name (fun node => if node.isSome then none else some (value json)) members).map
        (table origin)
  | name :: path, table origin members =>
      (alter? name (fun node =>
        match node with
        | none => insert? json path (table .dotted [])
        | some (table .dotted members) => insert? json path (table .dotted members)
        | some (table .path members) =>
            if path.length = 1 then none else insert? json path (table .path members)
        | some (rows (last :: earlier)) =>
            if path.length = 1 then none
            else (insert? json path last).map fun last => rows (last :: earlier)
        | some _ => none) members).map (table origin)
  | _, _ => none

/-- The tree with a change to the node that a header names, where the tables
before it are made if they are not there. -/
def reach? (change : Option Node → Option Node) : List String → Node → Option Node
  | [], _ => none
  | [name], table origin members => (alter? name change members).map (table origin)
  | name :: path, table origin members =>
      (alter? name (fun node =>
        match node with
        | none => reach? change path (table .path [])
        | some (table inner members) => reach? change path (table inner members)
        | some (rows (last :: earlier)) =>
            (reach? change path last).map fun last => rows (last :: earlier)
        | some _ => none) members).map (table origin)
  | _, _ => none

/-- The tree after the header of a table. -/
def open? (path : List String) (root : Node) : Option Node :=
  reach? (fun node =>
    match node with
    | none => some (table .header [])
    | some (table .path members) => some (table .header members)
    | some _ => none) path root

/-- The tree after the header of a row of tables. -/
def append? (path : List String) (root : Node) : Option Node :=
  reach? (fun node =>
    match node with
    | none => some (rows [table .header []])
    | some (rows tables) => some (rows (table .header [] :: tables))
    | some _ => none) path root

/-- The tree with a change to the table that was opened last, at its path. -/
def update? (change : Node → Option Node) : List String → Node → Option Node
  | [], root => change root
  | path, root =>
      reach? (fun node =>
        match node with
        | some (rows (last :: earlier)) => (change last).map fun last => rows (last :: earlier)
        | some node => change node
        | none => none) path root

mutual

/-- The tree as one value. -/
def toJson : Node → Json
  | value json => json
  | table _ members => .object (membersToJson members)
  | rows tables => .array (tablesToJson tables).reverse

/-- The members of a table as values. -/
def membersToJson : List (String × Node) → List (String × Json)
  | [] => []
  | (name, node) :: rest => (name, toJson node) :: membersToJson rest

/-- The tables of a row as values, in the order in which they are kept. -/
def tablesToJson : List Node → List Json
  | [] => []
  | node :: rest => toJson node :: tablesToJson rest

end

end Node

end IssueSearch.Toml
