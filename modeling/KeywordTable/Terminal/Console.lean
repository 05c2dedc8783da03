import KeywordTable.Host
import KeywordTable.Terminal.Style

/-!
# Talking to the User

Lines that tell what was done, and errors. A line starts with a status: either
one word right-aligned, so that the messages of several lines stand below each
other, or a word with a colon after it. How long something took is told in the
largest unit that is not a fraction of one: seconds, milliseconds, microseconds or
nanoseconds. What is left is written as decimals without zeros at the end.

Everything is written with its styles and loses them on the way out if the
stream shows no colours. Whether it does is settled once, from what was asked
for and from the environment.

## Main definitions

* `statusLineIn`: A line that starts with a status, set off in any way.
* `statusLine`: A line that starts with a status in a style.
* `elapsedText`: A number of nanoseconds in words.
* `ColorChoice`: What was asked for.
* `Console`: Which streams show colours.
* `Console.status`, `Console.error`, `Console.print`: What can be said.
-/

namespace KeywordTable

namespace Terminal

/-- The characters that a right-aligned status takes. -/
def statusWidth : Nat := 13

/-- The text with blanks before it up to the width. -/
def alignRight (width : Nat) (text : String) : String :=
  .ofList (List.replicate (width - text.length) ' ') ++ text

/-- A line that starts with a status, with what is written before the status and
    after it to set it off. Without a message it is left open. -/
def statusLineIn (before after status : String) (message : Option String) (justified : Bool) :
    String :=
  (if justified then before ++ alignRight statusWidth status ++ after
    else before ++ status ++ after ++ Style.dim.paint ":")
  ++ (match message with
    | some message => " " ++ message ++ "\n"
    | none => " ")

/-- A line that starts with a status in a style. -/
def statusLine (style : Style) (status : String) (message : Option String) (justified : Bool) :
    String :=
  statusLineIn style.start style.stop status message justified

/-- The digits of a number, with zeros before them up to the width. -/
def paddedDigits (width n : Nat) : List Char :=
  let ds := Nat.toDigits 10 n
  List.replicate (width - ds.length) '0' ++ ds

/-- A number of nanoseconds in a unit of `10 ^ places` of them. -/
def inUnit (places : Nat) (unit : String) (nanos : Nat) : String :=
  let whole := toString (nanos / Nat.pow 10 places)
  let left := nanos % Nat.pow 10 places
  let decimals := ((paddedDigits places left).reverse.dropWhile (· == '0')).reverse
  if left = 0 then whole ++ unit
  else whole ++ "." ++ .ofList decimals ++ unit

/-- A number of nanoseconds in words. -/
def elapsedText (nanos : Nat) : String :=
  if Nat.pow 10 9 ≤ nanos then inUnit 9 "s" nanos
  else if Nat.pow 10 6 ≤ nanos then inUnit 6 "ms" nanos
  else if Nat.pow 10 3 ≤ nanos then inUnit 3 "µs" nanos
  else inUnit 0 "ns" nanos

/-- What was asked for. -/
inductive ColorChoice where
  /-- Colours where they can be shown. -/
  | auto
  | always
  | never
  deriving Repr, DecidableEq

/-- What a run can know of its surroundings. -/
structure Environment where
  /-- The value of a variable. -/
  var? : String → Option String
  /-- The stream is a terminal. -/
  isTerminal : Stream → Bool := fun _ => false

namespace Environment

/-- Surroundings in which nothing is set. -/
def empty : Environment := { var? := fun _ => none }

/-- The stream is a terminal that shows colours. -/
def supportsColor (env : Environment) (stream : Stream) : Bool :=
  env.isTerminal stream
    && ((env.var? "TERM").any (· != "dumb") || (env.var? "CLICOLOR").isSome
      || (env.var? "CI").isSome)

/-- Colours are shown on the stream if nothing else was asked for. -/
def showsColor (env : Environment) (stream : Stream) : Bool :=
  if (env.var? "NO_COLOR").any (· != "") then false
  else if (env.var? "CLICOLOR_FORCE").any (· != "") then true
  else if (env.var? "CLICOLOR").any (· == "0") then false
  else env.supportsColor stream

end Environment

/-- Which streams show colours. -/
structure Console where
  colored : Stream → Bool

namespace Console

/-- The console that was asked for. -/
def ofChoice (choice : ColorChoice) (env : Environment) : Console :=
  match choice with
  | .auto => ⟨env.showsColor⟩
  | .always => ⟨fun _ => true⟩
  | .never => ⟨fun _ => false⟩

variable {m : Type → Type} [Host m]

/-- Prints text. -/
def print (console : Console) (stream : Stream) (text : String) : m Unit :=
  Host.print stream (console.colored stream) text

/-- Tells what was done. -/
def status (console : Console) (status message : String) : m Unit :=
  console.print .err (statusLine .header status (some message) true)

/-- Tells what went wrong. -/
def error (console : Console) (message : String) : m Unit :=
  console.print .err (statusLine .error "error" (some message) false)

end Console

end Terminal

end KeywordTable
