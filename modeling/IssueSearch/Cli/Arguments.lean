import IssueSearch.Text.Integer

/-!
# Arguments of the command line

The command line names one of six commands.  Options may stand before or after
the command and its query; those of the program may stand on either side of the
command, where the one behind it wins.  Everything after `--` is a query.

* `Command`, `Options`, `Invocation`: what is asked for;
* `Flag`: the options of a command line;
* `readArguments`: the options and queries of one level, up to a command;
* `Invocation.read`: a whole command line.
-/

namespace IssueSearch.Cli

/-- How results are printed. -/
inductive Format where
  | table
  | json
  | compact
  deriving Repr, DecidableEq, Inhabited

/-- The format with a name. -/
def Format.ofName? : String → Option Format
  | "table" => some table
  | "json" => some json
  | "compact" => some compact
  | _ => none

/-- What the program is asked to do. -/
inductive Command where
  | tokens (query : String)
  | parse (query : String) (strict : Bool)
  | normalize (query : String)
  | suggest (query : String) (cursor : Option Nat)
  | request (query : String) (page perPage : Option UInt32)
  | fields
  deriving Repr, DecidableEq, Inhabited

/-- How the program prints. -/
structure Options where
  format : Format := .table
  /-- Print errors only. -/
  quiet : Bool := false
  /-- Print what the program does. -/
  verbose : Bool := false
  noColor : Bool := false
  deriving Repr, DecidableEq, Inhabited

/-- A command with its options. -/
structure Invocation where
  options : Options
  /-- The settings file, if one is named. -/
  config : Option String
  command : Command
  deriving Repr, DecidableEq, Inhabited

/-! ## Options -/

/-- The options that may be given. -/
inductive Flag where
  | output
  | quiet
  | verbose
  | noColor
  | config
  | strict
  | cursor
  | page
  | perPage
  | version
  | help
  deriving Repr, DecidableEq

namespace Flag

/-- The options of the program, which every command takes too. -/
def ofProgram : List Flag :=
  [output, quiet, verbose, noColor, config, help]

/-- The long name of an option. -/
def long : Flag → String
  | output => "output"
  | quiet => "quiet"
  | verbose => "verbose"
  | noColor => "no-color"
  | config => "config"
  | strict => "strict"
  | cursor => "cursor"
  | page => "page"
  | perPage => "per-page"
  | version => "version"
  | help => "help"

/-- The letter of an option. -/
def short? : Flag → Option Char
  | quiet => some 'q'
  | verbose => some 'v'
  | version => some 'V'
  | help => some 'h'
  | _ => none

end Flag

/-- A cursor: a plus sign or none, and digits, within 64 bits. -/
def readCursor? (text : String) : Option Nat :=
  let digits := match text.toList with
    | '+' :: rest => rest
    | chars => chars
  (Text.readDigits? digits).filter fun n => decide (n < UInt64.size)

/-- A page: an integer from 0 within 32 bits. -/
def readPage? (text : String) : Option UInt32 :=
  (Text.readInteger? text.toList).bind Text.fitUInt32?

/-- Whether the value of an option can be used; an option without a value has
`none`. -/
def Flag.accepts? (flag : Flag) : Option (String → Bool) :=
  match flag with
  | output => some fun value => (Format.ofName? value).isSome
  | config => some fun value => !value.isEmpty
  | cursor => some fun value => (readCursor? value).isSome
  | page => some fun value => (readPage? value).isSome
  | perPage => some fun value => (readPage? value).isSome
  | _ => none

/-! ## One level of arguments -/

/-- Why the arguments are not read any further. -/
inductive Halt where
  /-- The arguments are wrong. -/
  | usage
  | version
  | help
  deriving Repr, DecidableEq

/-- The arguments of the program or of a command. -/
structure Level where
  /-- The options with their values, the last one first. -/
  given : List (Flag × String) := []
  queries : List String := []
  /-- The command, with the arguments behind it. -/
  command : Option (String × List String) := none
  deriving Repr, DecidableEq, Inhabited

namespace Level

/-- Whether an option is given. -/
def has (level : Level) (flag : Flag) : Bool :=
  level.given.any (·.1 == flag)

/-- The value of an option. -/
def value? (level : Level) (flag : Flag) : Option String :=
  level.given.lookup flag

end Level

/-- What may stand on a level. -/
structure Grammar where
  flags : List Flag
  /-- The greatest number of queries. -/
  queries : Nat
  commands : List String

/-- The level with one more option, which must not be there yet. -/
def addFlag (level : Level) (flag : Flag) (value : String) : Except Halt Level :=
  match flag with
  | .version => .error .version
  | .help => .error .help
  | flag =>
      if level.has flag then .error .usage
      else .ok { level with given := (flag, value) :: level.given }

/-- The level with one more query, if there is room for it. -/
def addQuery (grammar : Grammar) (level : Level) (query : String) : Except Halt Level :=
  if level.queries.length < grammar.queries then
    .ok { level with queries := level.queries ++ [query] }
  else .error .usage

/-- The level with the options of a row of letters. -/
def addLetters (grammar : Grammar) (level : Level) (letters : List Char) : Except Halt Level :=
  letters.foldlM (fun level letter =>
    match grammar.flags.find? fun flag => flag.short? == some letter with
    | some flag => addFlag level flag ""
    | none => .error .usage) level

/-- Whether an argument is read as options: it starts with a dash and goes on. -/
def isOptionLike (argument : String) : Bool :=
  argument.toList.head? == some '-' && 2 ≤ argument.length

/-- The options and queries of a level, up to a command. -/
def readArguments (grammar : Grammar) (level : Level) : List String → Except Halt Level
  | [] => .ok level
  | argument :: rest =>
      if grammar.commands.contains argument then
        .ok { level with command := some (argument, rest) }
      else match argument.toList with
        | ['-', '-'] => rest.foldlM (addQuery grammar) level
        | '-' :: '-' :: body =>
            let name := String.ofList (body.takeWhile (· != '='))
            let attached := (body.dropWhile (· != '='))
            match grammar.flags.find? fun flag => flag.long == name with
            | none => .error .usage
            | some flag =>
                match flag.accepts?, attached, rest with
                | none, [], rest => do
                    let level ← addFlag level flag ""
                    readArguments grammar level rest
                | none, _ :: _, _ => .error .usage
                | some accepts, _ :: value, rest =>
                    let value := String.ofList value
                    if accepts value then do
                      let level ← addFlag level flag value
                      readArguments grammar level rest
                    else .error .usage
                | some _, [], [] => .error .usage
                | some accepts, [], value :: rest =>
                    if !isOptionLike value && accepts value then do
                      let level ← addFlag level flag value
                      readArguments grammar level rest
                    else .error .usage
        | '-' :: letter :: letters => do
            let level ← addLetters grammar level (letter :: letters)
            readArguments grammar level rest
        | _ => do
            let level ← addQuery grammar level argument
            readArguments grammar level rest

/-! ## The whole command line -/

/-- What may stand before a command. -/
def programGrammar : Grammar where
  flags := .version :: Flag.ofProgram
  queries := 0
  commands := ["tokens", "parse", "normalize", "suggest", "request", "fields", "help"]

/-- What may stand behind a command. -/
def commandGrammar (command : String) : Grammar where
  flags := Flag.ofProgram ++ match command with
    | "parse" => [.strict]
    | "suggest" => [.cursor]
    | "request" => [.page, .perPage]
    | _ => []
  queries := if command = "fields" then 0 else 1
  commands := []

/-- The command of a name with its query and options. -/
def readCommand? (name : String) (level : Level) : Option Command :=
  match name, level.queries with
  | "fields", [] => some .fields
  | "tokens", [query] => some (.tokens query)
  | "parse", [query] => some (.parse query (level.has .strict))
  | "normalize", [query] => some (.normalize query)
  | "suggest", [query] => some (.suggest query ((level.value? .cursor).bind readCursor?))
  | "request", [query] =>
      some (.request query ((level.value? .page).bind readPage?)
        ((level.value? .perPage).bind readPage?))
  | _, _ => none

/-- A whole command line.  The settings file may also be named by the
environment; a name that is empty is refused unless both levels name a file
themselves. -/
def Invocation.read (environment : Option String) (arguments : List String) :
    Except Halt Invocation := do
  let program ← readArguments programGrammar {} arguments
  match program.command with
  | none => .error .usage
  | some ("help", _) => .error .help
  | some (name, rest) =>
      let level ← readArguments (commandGrammar name) {} rest
      match readCommand? name level with
      | none => .error .usage
      | some command =>
          if environment = some "" && !(program.has .config && level.has .config) then
            .error .usage
          else
            let value? := fun flag => (level.value? flag).or (program.value? flag)
            let has := fun flag => level.has flag || program.has flag
            .ok {
              options := {
                format := ((value? .output).bind Format.ofName?).getD .table
                quiet := has .quiet
                verbose := has .verbose
                noColor := has .noColor }
              config := (value? .config).or environment
              command }

end IssueSearch.Cli
