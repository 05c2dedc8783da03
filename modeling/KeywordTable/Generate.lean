import KeywordTable.Host

/-!
# Generating the Table

One generation reads the header once and replaces the output once. Whatever the
header holds, there is a table for it; only reading and writing can fail, and if
the header cannot be read nothing is written.

## Main definitions

* `Settings.render`: The words of a header and the table they make.
* `GenerateError`: Why there is no table.
* `Generated`: What was made.
* `generate`: Makes the table.
-/

namespace KeywordTable

/-- The words of a header and the table they make. -/
def Settings.render (settings : Settings) (source : String) : List Word × String :=
  let words := settings.markers.words source
  (words, settings.template.table words)

/-- Why there is no table. -/
inductive GenerateError where
  | read (path : Path) (error : FileError)
  | write (path : Path) (error : FileError)
  deriving Repr, DecidableEq

namespace GenerateError

/-- What could not be done. -/
def summary : GenerateError → String
  | read path _ => "failed to read " ++ path.text
  | write path _ => "failed to write " ++ path.text

/-- Why it could not be done. -/
def cause : GenerateError → FileError
  | read _ error => error
  | write _ error => error

/-- The error as messages show it. -/
def message (e : GenerateError) : String :=
  e.summary ++ ": " ++ e.cause.message

end GenerateError

/-- What was made. -/
structure Generated where
  words : List Word
  code : String
  output : Path

variable {m : Type → Type} [Monad m] [Host m]

/-- Makes the table of a header and logs how. -/
def Settings.renderLogged (settings : Settings) (source : String) : m (List Word × String) := do
  ((settings.markers.scan source).flatMap ScannedLine.events).forM Host.log
  let (words, code) := settings.render source
  Host.log (.extracted words.length)
  Host.log (.rendering words.length settings.template.tableName)
  return (words, code)

/-- Makes the table. -/
def generate (settings : Settings) : m (Except GenerateError Generated) := do
  match ← Host.read settings.input with
  | .error e => return .error (.read settings.input e)
  | .ok source =>
    let (words, code) ← settings.renderLogged source
    match ← Host.write settings.output code with
    | .error e => return .error (.write settings.output e)
    | .ok () =>
      Host.log (.wrote settings.output)
      return .ok { words, code, output := settings.output }

end KeywordTable
