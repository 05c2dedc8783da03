import KeywordTable.Command

/-!
# The Program

A run with real files, streams and variables. All decisions are made elsewhere;
here the requests of a run are passed on to the system, and what the system
refuses is put in the words of a file error.

## Main definitions

* `LiveContext`: What a run on the machine keeps at hand.
* `Live`: Runs on the machine.
* `main`: The program.
-/

namespace KeywordTable

open Terminal (Environment PlainState)

/-- What a run on the machine keeps at hand. -/
structure LiveContext where
  filter : Log.Filter
  /-- Where in a sequence the plain text on a stream is. -/
  state : Stream → IO.Ref PlainState

/-- Runs on the machine. -/
abbrev Live := ReaderT LiveContext IO

namespace Live

/-- What the system says, in the words of a file error. -/
def fault : IO.Error → Fault
  | .noFileOrDirectory .. => .missing
  | .inappropriateType _ code details => ofCode code details
  | .invalidArgument _ code details => ofCode code details
  | .permissionDenied _ code details => ofCode code details
  | .resourceExhausted _ code details => ofCode code details
  | .otherError code details => ofCode code details
  | e => .other (toString e)
where
  ofCode (code : UInt32) (details : String) : Fault :=
    -- Some calls give the code with its sign turned.
    let code := if code < 0x80000000 then code else 0 - code
    if code = 20 then .notDirectory
    else if code = 21 then .isDirectory
    else if code = 36 then .nameTooLong
    else .other (details ++ " (os error " ++ toString code ++ ")")

/-- What the system knows of a path. -/
def metadata (p : Path) : IO (Except Fault IO.FS.Metadata) := do
  if '\x00' ∈ p.chars then return .error .nullInPath
  if p.chars = [] then return .error .missing
  try
    let data ← ((← IO.currentDir) / p.text).metadata
    return .ok data
  catch e => return .error (fault e)

/-- The path leads to a file. -/
def isFile (p : Path) : IO Bool := do
  match ← metadata p with
  | .ok data => return data.type == .file
  | .error _ => return false

/-- The text of a file. -/
def load (p : Path) : IO (Except FileError String) := do
  match ← metadata p with
  | .error e => return .error (.failed .access p e)
  | .ok data =>
    if data.type == .dir then return .error (.failed .read p .isDirectory)
    try
      match String.fromUTF8? (← IO.FS.readBinFile p.text) with
      | some text => return .ok text
      | none => return .error (.failed .read p .notText)
    catch e => return .error (.failed .access p (fault e))

/-- Shows an event if the filter lets it through. -/
def log (event : Event) : Live Unit := do
  if (← read).filter.allows event then IO.eprintln event.text

/-- The text of a file that is not too large. -/
def readText (p : Path) : Live (Except FileError String) := do
  match ← metadata p with
  | .error e => return .error (.failed .query p e)
  | .ok data =>
    match FileError.checkSize p data.byteSize.toNat with
    | .error e => return .error e
    | .ok () =>
      log (.reading p data.byteSize.toNat)
      load p

/-- Replaces the text of a file. -/
def write (p : Path) (text : String) : Live (Except FileError Unit) := do
  log (.writing p text.utf8ByteSize)
  if '\x00' ∈ p.chars then return .error (.failed .create p .nullInPath)
  try
    IO.FS.writeFile p.text text
    return .ok ()
  catch e => return .error (.failed .create p (fault e))

/-- What is shown of a text on a stream. -/
def shown (stream : Stream) (styled : Bool) (text : String) : Live String := do
  if styled then return text
  let ref := (← read).state stream
  let (state, plain) := (← ref.get).print text
  ref.set state
  return plain

/-- Prints on a stream. -/
def print (stream : Stream) (styled : Bool) (text : String) : Live Unit := do
  let handle ← match stream with
    | .out => IO.getStdout
    | .err => IO.getStderr
  handle.putStr (← shown stream styled text)
  handle.flush

instance : Host Live where
  isFile p := isFile p
  load p := load p
  read := readText
  write := write
  print := print
  log := log
  timed act := do
    let before ← IO.monoNanosNow
    let a ← act
    return (a, (← IO.monoNanosNow) - before)

/-- The variables that a run looks at. -/
def variableNames : List String :=
  [logVariable, "NO_COLOR", "CLICOLOR", "CLICOLOR_FORCE", "TERM", "CI"]

/-- The surroundings of the run. -/
def environment : IO Environment := do
  let values ← variableNames.mapM fun name => do return (name, ← IO.getEnv name)
  let out ← (← IO.getStdout).isTty
  let err ← (← IO.getStderr).isTty
  return { var? := fun name => (values.lookup name).join
           isTerminal := fun
             | .out => out
             | .err => err }

end Live

end KeywordTable

open KeywordTable in
/-- The program. -/
def main (arguments : List String) : IO UInt32 := do
  let env ← Live.environment
  let cwd := Path.ofText (← IO.currentDir).toString
  let out ← IO.mkRef Terminal.PlainState.ground
  let err ← IO.mkRef Terminal.PlainState.ground
  let run : Live Nat := runCommand arguments env cwd
  let context : LiveContext :=
    { filter := logFilterOf arguments env
      state := fun
        | .out => out
        | .err => err }
  return (← run.run context).toUInt32
