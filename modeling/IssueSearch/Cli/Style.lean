/-!
# Colours

Lines of text may be coloured, with the control sequences of a terminal.

* `Colour`, `Colour.code`: the colours in use;
* `Style.paint`: a text in a colour;
* `colours`: whether the environment asks for colours.
-/

namespace IssueSearch.Cli

/-- The colours in use. -/
inductive Colour where
  | red
  | green
  | yellow
  | blue
  | white
  | grey
  | brightBlue
  | brightCyan
  deriving Repr, DecidableEq

/-- The number of a colour in a control sequence. -/
def Colour.code : Colour → String
  | red => "31"
  | green => "32"
  | yellow => "33"
  | blue => "34"
  | white => "37"
  | grey => "90"
  | brightBlue => "94"
  | brightCyan => "96"

/-- How a text stands out. -/
structure Style where
  colour : Colour
  bold : Bool := false
  deriving Repr, DecidableEq

namespace Style

/-- For messages that all is well. -/
def success : Style := { colour := .green }

/-- For messages that something is wrong. -/
def error : Style := { colour := .red }

/-- For messages that something was left out. -/
def warning : Style := { colour := .yellow }

/-- For messages that there is nothing to show. -/
def info : Style := { colour := .blue }

/-- For what may be passed over. -/
def muted : Style := { colour := .grey }

/-- For headings. -/
def heading : Style := { colour := .brightBlue, bold := true }

/-- For the name of a value. -/
def key : Style := { colour := .brightCyan, bold := true }

/-- For a value after its name. -/
def value : Style := { colour := .white }

/-- For the marks under a part of a query. -/
def marker : Style := { colour := .red, bold := true }

/-- The control sequence that starts a style. -/
def start (style : Style) : List Char :=
  ("\x1b[" ++ (if style.bold then "1;" else "") ++ style.colour.code ++ "m").toList

/-- The control sequence that ends all styles. -/
def reset : List Char :=
  "\x1b[0m".toList

/-- A text in which the style starts again wherever a style ends. -/
def restart (style : Style) : List Char → List Char
  | [] => []
  | c :: rest =>
      if reset.isPrefixOf (c :: rest) then
        -- the sequence has four characters, and none of the others starts one
        match rest with
        | a :: b :: d :: rest => c :: a :: b :: d :: style.start ++ style.restart rest
        | _ => c :: rest
      else c :: style.restart rest

/-- A text in a style. -/
def paint (style : Style) (text : String) : String :=
  String.ofList (style.start ++ style.restart text.toList ++ reset)

end Style

/-- Whether the environment asks for colours where there is no terminal: by
`CLICOLOR_FORCE`, unless it is `0`. -/
def colours (environment : String → Option String) : Bool :=
  match environment "CLICOLOR_FORCE" with
  | some value => value != "0"
  | none => false

end IssueSearch.Cli
