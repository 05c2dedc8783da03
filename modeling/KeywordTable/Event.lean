import KeywordTable.Settings.Basic

/-!
# Events

What happens during a run, as the log tells it. An event has a level, the part
of the program it belongs to, and a text: a message with the values it is about
after it.

## Main definitions

* `Level`: How much an event matters.
* `Event`: Something that happens during a run.
* `Event.text`: The line of the log.
-/

namespace KeywordTable

/-- How much an event matters. -/
inductive Level where
  | error
  | warn
  | info
  | debug
  | trace
  deriving Repr, DecidableEq

namespace Level

/-- All levels, from the most to the least that matters. -/
def all : List Level := [error, warn, info, debug, trace]

/-- The place of a level among all of them, from one on. -/
def rank : Level → Nat
  | error => 1
  | warn => 2
  | info => 3
  | debug => 4
  | trace => 5

/-- The level as the log names it. -/
def name : Level → String
  | error => "ERROR"
  | warn => "WARN"
  | info => "INFO"
  | debug => "DEBUG"
  | trace => "TRACE"

end Level

/-- Something that happens during a run. -/
inductive Event where
  /-- No settings file was found. -/
  | noSettingsFile
  /-- A settings file is being read. -/
  | loading (path : Path)
  /-- The settings are known. -/
  | resolved (settings : Settings)
  | reading (path : Path) (bytes : Nat)
  | writing (path : Path) (bytes : Nat)
  /-- A closing marker ends the range. -/
  | closed (line : Nat)
  /-- An opening marker starts the range. -/
  | opened (line : Nat)
  /-- A word was found. -/
  | found (line : Nat) (word : String)
  /-- All words were found. -/
  | extracted (count : Nat)
  /-- The table is being made. -/
  | rendering (entries : Nat) (table : String)
  /-- The table is written. -/
  | wrote (path : Path)

namespace Event

/-- How much the event matters. -/
def level : Event → Level
  | closed _ | opened _ | found _ _ => .trace
  | _ => .debug

/-- The part of the program that the event belongs to. -/
def target : Event → String
  | noSettingsFile | loading _ => "kwgen_config::toml"
  | resolved _ => "kwgen::commands::generate"
  | reading _ _ | writing _ _ => "kwgen_fs::loader"
  | closed _ | opened _ => "kwgen_scan::markers"
  | found _ _ => "kwgen_scan"
  | extracted _ | wrote _ => "kwgen::pipeline"
  | rendering _ _ => "kwgen_codegen::table"

/-- A path that may not be there, as the log shows it. -/
def optional : Option Path → String
  | none => "None"
  | some path => "Some(" ++ Text.quote path.text ++ ")"

/-- What happens. -/
def summary : Event → String
  | noSettingsFile => "no " ++ Settings.fileName ++ " found, using defaults"
  | loading _ => "loading config"
  | resolved _ => "resolved config"
  | reading _ _ => "reading file"
  | writing _ _ => "writing file"
  | closed _ => "end marker closes keyword range"
  | opened _ => "start marker opens keyword range"
  | found _ _ => "reserved word"
  | extracted _ => "extracted reserved words"
  | rendering _ _ => "rendering keyword table"
  | wrote _ => "wrote keyword table"

/-- The values that the event is about, each with its name. -/
def values : Event → List (String × String)
  | noSettingsFile => []
  | loading path | wrote path => [("path", path.text)]
  | resolved settings =>
    [("input", settings.input.text), ("output", settings.output.text),
      ("file", optional settings.file)]
  | reading path bytes | writing path bytes => [("path", path.text), ("bytes", toString bytes)]
  | closed line | opened line => [("line", toString line)]
  | found line word => [("line", toString line), ("word", word)]
  | extracted count => [("count", toString count)]
  | rendering entries table => [("entries", toString entries), ("table", table)]

/-- The names of all that the event tells. What happens has a name too. -/
def fieldNames (event : Event) : List String :=
  "message" :: event.values.map Prod.fst

/-- What the log says of the event. -/
def message (event : Event) : String :=
  event.summary ++ String.join (event.values.map fun (name, value) => " " ++ name ++ "=" ++ value)

/-- The line of the log. -/
def text (event : Event) : String :=
  event.level.name ++ " " ++ event.target ++ ": " ++ event.message

end Event

/-- The events of scanning one line. -/
def ScannedLine.events (line : ScannedLine) : List Event :=
  (if line.closes ∧ line.before = .inside then [.closed line.number] else [])
    ++ (if line.opens then [.opened line.number] else [])
    ++ (line.word?.map fun word => Event.found line.number word.text).toList

end KeywordTable
