import KeywordTable.Path

/-!
# Arguments

What a run is told when it is started. There are three options that take a path
and three flags, each with a long name and most with a letter. Letters can be
run together, and a value can stand in the next argument, directly after the
letter, or after an equals sign.

Arguments are taken from left to right and the first problem ends it. An option
whose value is to come is kept as pending, together with the value once it is
there, and is settled only when the next known option comes or the arguments
end. Until then an argument that is not known at all is the more pressing
problem.

## Main definitions

* `PathOption`, `Flag`: What can be asked for.
* `Arguments`: What was asked for.
* `UsageError`: Why arguments make no sense.
* `Arguments.parse`: Reads the arguments of a run.
-/

namespace KeywordTable

/-- The options that take a path. -/
inductive PathOption where
  | input
  | output
  | config
  deriving Repr, DecidableEq

/-- What can be switched on. -/
inductive Flag where
  | print
  | verbose
  | noColor
  deriving Repr, DecidableEq

/-- What an option can be. -/
inductive Switch where
  | path (option : PathOption)
  | flag (flag : Flag)
  | help
  deriving Repr, DecidableEq

/-- What was asked for. -/
structure Arguments where
  path? : PathOption → Option Path := fun _ => none
  flag : Flag → Bool := fun _ => false

/-- Why arguments make no sense. -/
inductive UsageError where
  /-- Nothing of this kind is known. -/
  | unexpected (argument : String)
  /-- An option has no value. -/
  | noValue (option : PathOption)
  /-- A flag has a value. -/
  | unwantedValue (value name : String)
  /-- Something was asked for twice. -/
  | repeated (title : String)
  deriving Repr, DecidableEq

/-- Why a run does not start. -/
inductive Refusal where
  /-- Help was asked for. -/
  | help
  | usage (error : UsageError)
  deriving Repr, DecidableEq

namespace PathOption

/-- The name of an option. -/
def name : PathOption → String
  | input => "input"
  | output => "output"
  | config => "config"

/-- The option as messages name it. -/
def title (o : PathOption) : String :=
  "--" ++ o.name ++ " <PATH>"

end PathOption

namespace Flag

/-- The name of a flag. -/
def name : Flag → String
  | print => "print"
  | verbose => "verbose"
  | noColor => "no-color"

/-- The flag as messages name it. -/
def title (f : Flag) : String :=
  "--" ++ f.name

end Flag

namespace Switch

/-- Everything that can be asked for. -/
def all : List Switch :=
  [.path .input, .path .output, .path .config, .flag .print, .flag .verbose, .flag .noColor, .help]

/-- The long name of a switch. -/
def name : Switch → String
  | path o => o.name
  | flag f => f.name
  | help => "help"

/-- The letter of a switch. -/
def letter? : Switch → Option Char
  | path .input => some 'i'
  | path .output => some 'o'
  | path .config => some 'c'
  | flag .print => some 'p'
  | flag .verbose => some 'v'
  | flag .noColor => none
  | help => some 'h'

/-- The switch with a long name. -/
def ofName? (name : String) : Option Switch :=
  all.find? (·.name == name)

/-- The switch with a letter. -/
def ofLetter? (letter : Char) : Option Switch :=
  all.find? (·.letter? == some letter)

end Switch

namespace Arguments

/-- The arguments with one more path. -/
def setPath (args : Arguments) (o : PathOption) (path : Path) : Arguments :=
  { args with path? := fun x => if x = o then some path else args.path? x }

/-- The arguments with one more flag. -/
def setFlag (args : Arguments) (f : Flag) : Arguments :=
  { args with flag := fun x => x = f || args.flag x }

end Arguments

/-- How far the arguments have been taken. -/
structure ArgumentReader where
  args : Arguments := {}
  /-- The option that is not settled yet, with its value if it has come. -/
  pending : Option (PathOption × Option (List Char)) := none
  /-- Only values may follow. -/
  valuesOnly : Bool := false

namespace ArgumentReader

/-- Stops with an error. -/
def stop {α : Type} (error : UsageError) : Except Refusal α :=
  .error (.usage error)

/-- Gives an option its value. -/
def setPath (r : ArgumentReader) (o : PathOption) (value : List Char) :
    Except Refusal ArgumentReader :=
  if (r.args.path? o).isSome then stop (.repeated o.title)
  else if value = [] then stop (.noValue o)
  else .ok { r with args := r.args.setPath o ⟨value⟩ }

/-- Settles the option that is pending. -/
def settle (r : ArgumentReader) : Except Refusal ArgumentReader :=
  match r.pending with
  | none => .ok r
  | some (o, none) => stop (.noValue o)
  | some (o, some value) => { r with pending := none }.setPath o value

/-- Takes an option with its value. -/
def takePath (r : ArgumentReader) (o : PathOption) (value : List Char) :
    Except Refusal ArgumentReader := do
  (← r.settle).setPath o value

/-- Takes an option whose value is to come. -/
def awaitPath (r : ArgumentReader) (o : PathOption) : Except Refusal ArgumentReader := do
  return { ← r.settle with pending := some (o, none) }

/-- Takes a flag. -/
def takeFlag (r : ArgumentReader) (f : Flag) : Except Refusal ArgumentReader := do
  let r ← r.settle
  if r.args.flag f then stop (.repeated f.title)
  else return { r with args := r.args.setFlag f }

/-- Takes a request for help. -/
def takeHelp (r : ArgumentReader) : Except Refusal ArgumentReader := do
  let _ ← r.settle
  throw .help

/-- Takes a value that stands on its own. -/
def takeValue (r : ArgumentReader) (value : List Char) : Except Refusal ArgumentReader :=
  match r.valuesOnly, r.pending with
  | false, some (o, none) => .ok { r with pending := some (o, some value) }
  | _, _ => stop (.unexpected (.ofList value))

/-- Takes an option given by its name, without the dashes before it. -/
def takeLong (r : ArgumentReader) (cs : List Char) : Except Refusal ArgumentReader :=
  let name := String.ofList (cs.takeWhile (· != '='))
  let value := (cs.dropWhile (· != '=')).tail
  let hasValue := cs.contains '='
  match Switch.ofName? name with
  | none => stop (.unexpected ("--" ++ name))
  | some (.path o) => if hasValue then r.takePath o value else r.awaitPath o
  | some (.flag f) =>
    if hasValue then stop (.unwantedValue (.ofList value) f.name) else r.takeFlag f
  | some .help =>
    if hasValue then stop (.unwantedValue (.ofList value) "help") else r.takeHelp

/-- Takes letters that are run together. What follows the letter of an option
    is its value. -/
def takeLetters (r : ArgumentReader) : List Char → Except Refusal ArgumentReader
  | [] => .ok r
  | c :: cs =>
    match Switch.ofLetter? c with
    | none => stop (.unexpected ("-" ++ .ofList [c]))
    | some (.path o) =>
      match cs with
      | [] => r.awaitPath o
      | '=' :: value => r.takePath o value
      | value => r.takePath o value
    | some (.flag f) => do takeLetters (← r.takeFlag f) cs
    | some .help => r.takeHelp

/-- Takes one argument. -/
def take (r : ArgumentReader) (argument : String) : Except Refusal ArgumentReader :=
  let cs := argument.toList
  if r.valuesOnly then r.takeValue cs
  else match cs with
    | ['-', '-'] => .ok { r with valuesOnly := true }
    | '-' :: '-' :: cs => r.takeLong cs
    | '-' :: c :: cs => r.takeLetters (c :: cs)
    | cs => r.takeValue cs

end ArgumentReader

/-- Reads the arguments of a run. -/
def Arguments.parse (arguments : List String) : Except Refusal Arguments := do
  let r ← arguments.foldlM ArgumentReader.take {}
  return (← r.settle).args

end KeywordTable
