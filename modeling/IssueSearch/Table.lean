import IssueSearch.Text.Width

/-!
# Tables

A table with a header is drawn with lines around its cells.  A column is as wide
as its widest line, with one blank on both sides; a cell may have several lines.

* `Rule`, `Frame`: the characters of the lines;
* `Frame.boxed`, `Frame.ascii`: the two kinds of lines;
* `Table.render`: the drawing.
-/

namespace IssueSearch

/-- The characters of a horizontal line. -/
structure Rule where
  left : Char
  fill : Char
  cross : Char
  right : Char

/-- The characters of the lines of a table. -/
structure Frame where
  top : Rule
  /-- The line below the header. -/
  header : Rule
  /-- The line between two rows. -/
  between : Option Rule
  bottom : Rule
  left : Char
  /-- The line between two columns. -/
  inner : Char
  right : Char

namespace Frame

/-- Box-drawing lines, without lines between the rows. -/
def boxed : Frame where
  top := ⟨'┌', '─', '┬', '┐'⟩
  header := ⟨'╞', '═', '╪', '╡'⟩
  between := none
  bottom := ⟨'└', '─', '┴', '┘'⟩
  left := '│'
  inner := '┆'
  right := '│'

/-- Lines in ASCII, also between the rows. -/
def ascii : Frame where
  top := ⟨'+', '-', '+', '+'⟩
  header := ⟨'+', '=', '=', '+'⟩
  between := some ⟨'|', '-', '+', '|'⟩
  bottom := ⟨'+', '-', '+', '+'⟩
  left := '|'
  inner := '|'
  right := '|'

end Frame

/-- A header and rows of as many cells. -/
structure Table where
  header : List String
  rows : List (List String)

namespace Table

/-- The lines of a cell. -/
def cellLines (cell : String) : List String :=
  (cell.toList.splitOn '\n').map String.ofList

/-- The width of a cell's widest line. -/
def cellWidth (cell : String) : Nat :=
  ((cellLines cell).map Text.width).foldl max 0

/-- The width of each column, without the blanks beside it. -/
def columnWidths (table : Table) : List Nat :=
  table.rows.foldl (fun widths row => List.zipWith max widths (row.map cellWidth))
    (table.header.map cellWidth)

/-- A number of equal characters. -/
def repeated (count : Nat) (c : Char) : String :=
  String.ofList (List.replicate count c)

/-- A horizontal line. -/
def drawRule (widths : List Nat) (rule : Rule) : String :=
  rule.left.toString ++
    String.intercalate rule.cross.toString
      (widths.map fun width => repeated (width + 2) rule.fill) ++
    rule.right.toString

/-- A line of a cell between blanks. -/
def padCell (width : Nat) (line : String) : String :=
  " " ++ line ++ repeated (width - Text.width line) ' ' ++ " "

/-- The lines of a row. -/
def drawRow (frame : Frame) (widths : List Nat) (row : List String) : List String :=
  let cells := row.map cellLines
  let height := (cells.map List.length).foldl max 0
  (List.range height).map fun i =>
    let parts := List.zipWith (fun width lines => padCell width (lines.getD i "")) widths cells
    frame.left.toString ++ String.intercalate frame.inner.toString parts ++ frame.right.toString

/-- The lines of all rows. -/
def drawRows (frame : Frame) (widths : List Nat) : List (List String) → List String
  | [] => []
  | [row] => drawRow frame widths row
  | row :: rest =>
      drawRow frame widths row ++ (frame.between.toList.map (drawRule widths)) ++
        drawRows frame widths rest

/-- The drawing of a table. -/
def render (frame : Frame) (table : Table) : String :=
  let widths := table.columnWidths
  String.intercalate "\n" <|
    [drawRule widths frame.top] ++ drawRow frame widths table.header ++
    [drawRule widths frame.header] ++ drawRows frame widths table.rows ++
    [drawRule widths frame.bottom]

end Table

end IssueSearch
