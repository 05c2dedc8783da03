import KeywordTable.Generate
import KeywordTable.Terminal.Console

/-!
# Sessions

A generation together with what the user is told of it: how many keywords went
where, and on request how long that took. On request the table is shown too. A
generation that fails is not spoken of here; whoever asked for it gets the error.

## Main definitions

* `plural`: The form of a noun that a number asks for.
* `Session`: How generations are done and told.
* `Session.generate`: Makes the table and tells of it.
* `Session.generateShown`: Makes the table, tells of it and shows it.
-/

namespace KeywordTable

open Terminal (Console elapsedText)

/-- The form of a noun that a number asks for. -/
def plural (count : Nat) (one many : String) : String :=
  if count = 1 then one else many

/-- How generations are done and told. -/
structure Session where
  settings : Settings
  console : Console
  /-- How long it took is told too. -/
  measureTime : Bool := false

/-- What is told of a table that was made. -/
def Generated.summary (g : Generated) : String :=
  let count := g.words.length
  toString count ++ " " ++ plural count "keyword" "keywords" ++ " into " ++ g.output.text

namespace Session

variable {m : Type → Type} [Monad m] [Host m]

/-- Makes the table and tells that it was made. -/
def announce (session : Session) : m (Except GenerateError Generated) := do
  match ← KeywordTable.generate session.settings with
  | .error e => return .error e
  | .ok g =>
    session.console.status "Generated" g.summary
    return .ok g

/-- Makes the table and tells of it. -/
def generate (session : Session) : m (Except GenerateError Generated) := do
  match ← Host.timed session.announce with
  | (.error e, _) => return .error e
  | (.ok g, nanos) =>
    if session.measureTime then
      session.console.status "Took" (elapsedText nanos ++ " to generate keyword table")
    return .ok g

/-- Makes the table, tells of it and shows it. -/
def generateShown (session : Session) : m (Except GenerateError Generated) := do
  match ← session.generate with
  | .error e => return .error e
  | .ok g =>
    session.console.print .out g.code
    return .ok g

end Session

end KeywordTable
