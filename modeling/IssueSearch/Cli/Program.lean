import IssueSearch.Cli.Commands

/-!
# The program

The program reads its command line and environment, loads the settings if the
command needs them, and reports.

* `Surroundings`: the clock and the environment;
* `withConfig`, `runCommand`, `run`: from a command line to a report.
-/

namespace IssueSearch.Cli

open Time (Instant)

/-- What the program finds around it. -/
structure Surroundings where
  now : Instant
  environment : String → Option String

/-- The name and version of the program. -/
def versionLine : String :=
  "bugwatch-search 0.1.0"

/-- How the program is called. -/
def usageLine : String :=
  "Usage: bugwatch-search [OPTIONS] <tokens|parse|normalize|suggest|request|fields> [QUERY]"

/-- A note on the settings file in use. -/
def configNote (printer : Printer) : Option String → Report
  | some path => .note printer ("Using config " ++ path)
  | none => .note printer "No search.toml found; using empty history and saved searches"

variable {m : Type → Type} [Monad m]

/-- A report that needs the settings. -/
def withConfig (files : Files m) (printer : Printer) (named : Option String)
    (report : Config → Report) : m Report := do
  match ← loadConfig files named with
  | .error message => pure (.fail (.settings message))
  | .ok (path, config) => pure (configNote printer path ++ report config)

/-- The report of a command. -/
def runCommand (files : Files m) (printer : Printer) (now : Instant) (named : Option String) :
    Command → m Report
  | .tokens query => pure (tokensReport printer query)
  | .parse query strict => pure (parseReport printer now query strict)
  | .normalize query => pure (normalizeReport printer now query)
  | .suggest query cursor =>
      withConfig files printer named fun config => suggestReport printer config query cursor
  | .request query page perPage =>
      withConfig files printer named fun config =>
        requestReport printer config now query page perPage
  | .fields => pure (fieldsReport printer)

/-- The report of a command line. -/
def run (files : Files m) (surroundings : Surroundings) (arguments : List String) : m Report :=
  let environment := surroundings.environment
  match Invocation.read (environment "BUGWATCH_SEARCH_CONFIG") arguments with
  | .error .usage => pure (.fail .usage)
  | .error .version => pure { output := [versionLine] }
  | .error .help => pure { output := [usageLine] }
  | .ok invocation =>
      let printer := { options := invocation.options, colours := colours environment : Printer }
      runCommand files printer surroundings.now invocation.config invocation.command

end IssueSearch.Cli
