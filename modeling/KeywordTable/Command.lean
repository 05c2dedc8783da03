import KeywordTable.Log.Filter
import KeywordTable.Session
import KeywordTable.Settings.Find
import KeywordTable.Usage

/-!
# The Command

A whole run from its arguments to its exit code: the settings are found, the
table is made, and on request it is shown. Arguments that make no sense end a
run before it touches a file.

A run says with its exit code how it went. Anything that stops it is told on the
error stream, and help on the other one.

## Main definitions

* `RunError`: Why a run failed.
* `Arguments.run`: Does what the arguments ask for.
* `runCommand`: A whole run.
* `Transcript`: What a run on a disk does.
* `rehearse`: The transcript of a run.
-/

namespace KeywordTable

open Terminal (Console Environment)

/-- Why a run failed. -/
inductive RunError where
  | settings (error : SettingsError)
  | generate (error : GenerateError)

/-- The error as messages show it. -/
def RunError.message : RunError → String
  | settings error => error.message
  | generate error => error.message

/-- The variable that holds the filter of the log. -/
def logVariable : String := "KWGEN_LOG"

namespace Arguments

/-- The paths that the arguments give. -/
def overrides (args : Arguments) : Overrides :=
  { input := args.path? .input, output := args.path? .output }

/-- The console that the arguments ask for. -/
def console (args : Arguments) (env : Environment) : Console :=
  .ofChoice (if args.flag .noColor then .never else .auto) env

/-- The filter of the log. -/
def logFilter (args : Arguments) (env : Environment) : Log.Filter :=
  if args.flag .verbose then .all
  else ((env.var? logVariable).bind Log.Filter.parse?).getD .initial

variable {m : Type → Type} [Monad m] [Host m]

/-- Does what the arguments ask for, started in `cwd`. -/
def run (args : Arguments) (cwd : Path) (console : Console) : m (Except RunError Unit) := do
  match ← Settings.find cwd (args.path? .config) args.overrides with
  | .error e => return .error (.settings e)
  | .ok settings =>
    Host.log (.resolved settings)
    let session : Session := { settings, console, measureTime := args.flag .verbose }
    let make : m (Except GenerateError Generated) :=
      if args.flag .print then session.generateShown else session.generate
    match ← make with
    | .error e => return .error (.generate e)
    | .ok _ => return .ok ()

end Arguments

/-- A whole run, which ends in its exit code. -/
def runCommand {m : Type → Type} [Monad m] [Host m] (arguments : List String) (env : Environment)
    (cwd : Path) : m Nat := do
  match Arguments.parse arguments with
  | .error .help =>
    (Console.ofChoice .auto env).print .out helpText
    return 0
  | .error (.usage e) =>
    (Console.ofChoice .auto env).print .err e.text
    return 2
  | .ok args =>
    let console := args.console env
    match ← args.run cwd console with
    | .ok () => return 0
    | .error e =>
      console.error e.message
      return 1

/-- What a run on a disk does. -/
structure Transcript where
  exitCode : Nat
  stdout : String
  stderr : String
  /-- The lines of the log that are shown. -/
  log : List String
  /-- The disk after the run. -/
  disk : Disk

/-- The filter of the log for any arguments. Those that make no sense log
    nothing. -/
def logFilterOf (arguments : List String) (env : Environment) : Log.Filter :=
  match Arguments.parse arguments with
  | .ok args => args.logFilter env
  | .error _ => .initial

/-- The transcript of a run. -/
def rehearse (arguments : List String) (env : Environment) (disk : Disk) : Transcript :=
  let run : Simulated Disk Nat := runCommand arguments env disk.cwdPath
  let (exitCode, world) := run.run { store := disk }
  { exitCode
    stdout := world.out.text
    stderr := world.err.text
    log := (world.log.toList.filter (logFilterOf arguments env).allows).map Event.text
    disk := world.store }

end KeywordTable
