import IssueSearch.Cli.Program
import Std.Time.DateTime.Timestamp

/-!
# The command line program

Connects the program to the files, the clock, the environment and the output of
the system.
-/

namespace IssueSearch

/-- Whether a path leads to a file with something to read, or an empty one. -/
def canOpen (path : String) : IO Bool := do
  try
    let _ ← IO.FS.withFile path .read fun handle => handle.read 1
    pure true
  catch _ => pure false

/-- The text of a file that can be read. -/
def readText (path : String) : IO (Option String) := do
  try
    let text ← IO.FS.readFile path
    pure (some text)
  catch _ => pure none

/-- Access to the files of the system. -/
def systemFiles : IO (Cli.Files IO) := do
  let directory ← IO.currentDir
  pure { directory := directory.toString, isFile := canOpen, read := readText }

/-- The clock and the environment of the system. -/
def systemSurroundings : IO Cli.Surroundings := do
  let now ← Std.Time.Timestamp.now
  let names := ["BUGWATCH_SEARCH_CONFIG", "CLICOLOR_FORCE"]
  let values ← names.mapM fun name => do
    let value ← IO.getEnv name
    pure (name, value)
  pure {
    now := .ofMillis now.toMillisecondsSinceUnixEpoch.toInt
    environment := fun name => (values.lookup name).join }

/-- What is printed about a failure. -/
def failureText : Cli.Failure → String
  | .usage => Cli.usageLine
  | .settings message => "Error: " ++ message
  | .query message => "Error: " ++ message

end IssueSearch

open IssueSearch in
/-- Runs the program on its arguments. -/
def main (arguments : List String) : IO UInt32 := do
  let files ← systemFiles
  let surroundings ← systemSurroundings
  let report ← Cli.run files surroundings arguments
  for line in report.notes do
    IO.eprintln line
  for line in report.output do
    IO.println line
  match report.failure with
  | none => pure 0
  | some failure => do
      IO.eprintln (failureText failure)
      pure (UInt32.ofNat failure.exitCode)
