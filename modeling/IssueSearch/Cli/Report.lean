import IssueSearch.Cli.Arguments
import IssueSearch.Cli.Style
import IssueSearch.Json.Printer
import IssueSearch.Table

/-!
# What the program prints

A report gathers the lines that the program prints, and how it ends.

* `Printer`: how lines are printed;
* `Failure`, `Report`: how the program ends, and what it has printed;
* `Report.success`, `Report.warning`, `Report.info`, `Report.heading`, …: the
  kinds of lines;
* `Shown`, `Report.display`: a result in the three formats.
-/

namespace IssueSearch.Cli

/-- How lines are printed. -/
structure Printer where
  options : Options
  /-- Whether texts are coloured. -/
  colours : Bool

namespace Printer

/-- Whether results are printed as tables, with lines around them. -/
def isTable (printer : Printer) : Bool :=
  !printer.options.quiet && printer.options.format == .table

/-- A text in a style, if texts are coloured. -/
def paint (printer : Printer) (style : Style) (text : String) : String :=
  if printer.colours && !printer.options.noColor then style.paint text else text

/-- A mark and a message in one style. -/
def marked (printer : Printer) (style : Style) (mark message : String) : String :=
  printer.paint style mark ++ " " ++ printer.paint style message

/-- The lines of tables. -/
def frame (printer : Printer) : Frame :=
  if printer.options.noColor then .ascii else .boxed

end Printer

/-- Why the program fails. -/
inductive Failure where
  /-- The command line is wrong. -/
  | usage
  /-- The settings file cannot be used. -/
  | settings (message : String)
  /-- The query is wrong. -/
  | query (message : String)
  deriving Repr, DecidableEq

/-- The code with which a failing program ends. -/
def Failure.exitCode : Failure → Nat
  | usage => 2
  | settings _ => 1
  | query _ => 1

/-- What the program has printed, and why it fails. -/
structure Report where
  /-- The lines of the output. -/
  output : List String := []
  /-- The lines beside the output. -/
  notes : List String := []
  failure : Option Failure := none
  deriving Repr, DecidableEq, Inhabited

namespace Report

/-- Nothing. -/
def empty : Report :=
  {}

/-- A report and what follows it. -/
def append (first second : Report) : Report where
  output := first.output ++ second.output
  notes := first.notes ++ second.notes
  failure := first.failure.or second.failure

instance : Append Report :=
  ⟨append⟩

/-- Reports in a row. -/
def join (reports : List Report) : Report :=
  reports.foldl append empty

/-- The end of a failing program. -/
def fail (failure : Failure) : Report :=
  { failure := some failure }

/-- A line of output, unless only errors are printed. -/
def line (printer : Printer) (text : String) : Report :=
  if printer.options.quiet then empty else { output := [text] }

/-- A message that all is well. -/
def success (printer : Printer) (message : String) : Report :=
  line printer (printer.marked .success "✓" message)

/-- A message that something was left out. -/
def warning (printer : Printer) (message : String) : Report :=
  line printer (printer.marked .warning "⚠" message)

/-- A message that there is nothing to show. -/
def info (printer : Printer) (message : String) : Report :=
  line printer (printer.marked .info "ℹ" message)

/-- A note on what the program does, if notes are wanted. -/
def note (printer : Printer) (message : String) : Report :=
  if printer.options.verbose && !printer.options.quiet then
    { notes := [printer.marked .muted "→" message] }
  else empty

/-- A heading after an empty line; without colours it is underlined, one mark
for each byte. -/
def heading (printer : Printer) (text : String) : Report :=
  line printer "" ++ line printer (printer.paint .heading text) ++
    if printer.options.noColor then line printer (Table.repeated text.utf8ByteSize '=') else empty

/-- A name with its value. -/
def keyValue (printer : Printer) (key value : String) : Report :=
  line printer (printer.paint .key key ++ ": " ++ printer.paint .value value)

/-- An item of a list. -/
def bullet (printer : Printer) (text : String) : Report :=
  line printer ("  " ++ printer.paint .muted "•" ++ " " ++ text)

/-- An indented text. -/
def indented (printer : Printer) (text : String) : Report :=
  line printer ("    " ++ text)

/-- An indented text that stands out. -/
def indentedMarker (printer : Printer) (text : String) : Report :=
  line printer ("    " ++ printer.paint .marker text)

end Report

/-- A result in the three formats. -/
structure Shown where
  json : Json
  table : Table
  compact : String

/-- A result in the format that is asked for. -/
def Report.display (printer : Printer) (shown : Shown) : Report :=
  line printer <| match printer.options.format with
    | .json => shown.json.pretty
    | .table => shown.table.render printer.frame
    | .compact => shown.compact

end IssueSearch.Cli
