import KeywordTable.Arguments
import KeywordTable.Terminal.Style

/-!
# How the Program Is Used

What is shown to who asks for help, and what is said about arguments that make
no sense. Both are written with their styles.

The switches are listed in two sections. In each of them the descriptions stand
below each other, two blanks after the longest switch.

## Main definitions

* `helpText`: What is shown to who asks for help.
* `UsageError.message`: What is wrong with the arguments.
* `UsageError.text`: All that is said about it.
-/

namespace KeywordTable

open Terminal (Style)

/-- The name that the program is called by. -/
def programName : String := "kwgen"

/-- What the program does. -/
def programSummary : String := "Generate the keyword lookup table from a token header"

/-- The line that tells how the program is called. -/
def usageLine : String :=
  Style.usage.paint "Usage:" ++ " " ++ Style.literal.paint programName ++ " "
    ++ Style.placeholder.paint "[OPTIONS]" ++ "\n"

namespace Switch

/-- What a switch is for. -/
def description : Switch → String
  | path .input => "Token header declaring the enumeration"
  | path .output => "File to write the generated table to"
  | path .config => "Use this config file instead of searching for kwgen.toml"
  | flag .print => "Displays generated c++ code in the terminal"
  | flag .verbose => "Use verbose output"
  | flag .noColor => "Disable colored output"
  | help => "Print help"

/-- The forms of a switch with a style for what is typed and one for what stands
    for something else. -/
def forms (literal placeholder : Style) (s : Switch) : String :=
  (match s.letter? with
    | some letter => literal.paint ("-" ++ .ofList [letter]) ++ ", "
    | none => "    ")
  ++ literal.paint ("--" ++ s.name)
  ++ (match s with
    | path _ => placeholder.paint " " ++ placeholder.paint "<PATH>"
    | _ => "")

/-- The number of characters that the forms of a switch take. -/
def width (s : Switch) : Nat :=
  (s.forms .plain .plain).length

/-- The line of a switch, with its description at a column. -/
def line (column : Nat) (s : Switch) : String :=
  "  " ++ s.forms .literal .placeholder ++ .ofList (List.replicate (column - s.width) ' ')
    ++ s.description ++ "\n"

/-- The switches that say how the program runs. -/
def options : List Switch := [.flag .print, .flag .verbose, .flag .noColor, .help]

/-- The switches that say where files are. -/
def paths : List Switch := [.path .input, .path .output, .path .config]

end Switch

/-- A section of the help. -/
def helpSection (title : String) (switches : List Switch) : String :=
  let column := (switches.map Switch.width).foldl max 0 + 2
  Style.header.paint (title ++ ":") ++ "\n" ++ String.join (switches.map (Switch.line column))

/-- What is shown to who asks for help. -/
def helpText : String :=
  programSummary ++ "\n\n" ++ usageLine ++ "\n" ++ helpSection "Options" Switch.options ++ "\n"
    ++ helpSection "Paths" Switch.paths

namespace UsageError

/-- What is wrong with the arguments. -/
def message : UsageError → String
  | unexpected argument => "unexpected argument '" ++ Style.invalid.paint argument ++ "' found"
  | noValue option =>
    "a value is required for '" ++ Style.invalid.paint option.title ++ "' but none was supplied"
  | unwantedValue value name =>
    "unexpected value '" ++ Style.invalid.paint value ++ "' for '"
      ++ Style.literal.paint ("--" ++ name) ++ "' found; no more were expected"
  | repeated title =>
    "the argument '" ++ Style.invalid.paint title ++ "' cannot be used multiple times"

/-- All that is said about arguments that make no sense. -/
def text (e : UsageError) : String :=
  Style.error.paint "error:" ++ " " ++ e.message ++ "\n\n" ++ usageLine
    ++ "\nFor more information, try '" ++ Style.literal.paint "--help" ++ "'.\n"

end UsageError

end KeywordTable
