import KeywordTable.Event
import KeywordTable.Log.Value
import KeywordTable.Text.AlphanumericData
import KeywordTable.Text.Basic

/-!
# Directives

What a filter of the log says of some events: how much of them is shown. A
directive is a level alone, which speaks of all events, or a target with the
level after an equals sign; without a level everything is shown. A target is
followed by brackets if only some of its events are meant: between them stands
the name of a span, and the name of a field between braces, on which a value may
follow. No event lies in a span and none is chosen by its values, so such a
directive speaks of no event, but it has to be well formed.

Blanks around a directive are passed over when its marks are looked for. They
still belong to it, and the places of the marks, counted in bytes from the first
character that is not blank, are taken for places of the whole text. So only a
directive without blanks before it can name a level after an equals sign.

## Main definitions

* `Directive`: Which events are meant, and how much of them is shown.
* `Directive.parse?`: The directive that a text writes.
* `Directive.covers`: The directive speaks of the event.
* `Directive.yieldsTo`: Another directive for the same event comes first.
-/

namespace KeywordTable

namespace Log

/-- Which events are meant, and the rank of the last level that is shown, or
    zero if none is. -/
structure Directive where
  /-- What the target of an event starts with. -/
  target : List Char := []
  /-- What an event has to tell, if anything. -/
  field : Option String := none
  /-- Only what happens in some span is meant. -/
  inSpan : Bool := false
  limit : Nat := Level.trace.rank
  deriving Repr, DecidableEq

/-- The number that a text writes, maybe with a plus sign. -/
def rank? (cs : List Char) : Option Nat :=
  let ds := match cs with
    | '+' :: ds => ds
    | ds => ds
  if !ds.isEmpty && ds.all Char.isDigit then
    some (ds.foldl (fun n d => 10 * n + (d.toNat - '0'.toNat)) 0)
  else none

/-- The limit that a text names: a rank, a level in any spelling, or `off`. -/
def limit? (cs : List Char) : Option Nat :=
  match rank? cs with
  | some n => if n ≤ Level.trace.rank then some n else none
  | none =>
    let name := String.ofList (cs.map Char.toUpper)
    if name = "OFF" then some 0
    else (Level.all.find? fun l => l.name == name).map Level.rank

/-- The number of bytes of a text. -/
def byteCount (cs : List Char) : Nat :=
  cs.foldl (fun n c => n + c.utf8Size) 0

/-- The text cut after a number of bytes, if a character ends there. -/
def cutAt? : Nat → List Char → Option (List Char × List Char)
  | 0, cs => some ([], cs)
  | _, [] => none
  | n, c :: cs =>
    if n < c.utf8Size then none
    else (cutAt? (n - c.utf8Size) cs).map fun (before, after) => (c :: before, after)

/-- The part of a text from one place to another, counted in bytes. -/
def part? (first last : Nat) (cs : List Char) : Option (List Char) := do
  let (_, rest) ← cutAt? first cs
  return (← cutAt? (last - first) rest).1

/-- The character may start a target. -/
def isTargetStart (c : Char) : Bool :=
  c == '-' || c == ':' || c == '_' || Text.isAlphanumeric c

namespace Directive

/-- The limit that the text writes from a place on. -/
def limitFrom? (source : List Char) (place : Nat) : Option Nat := do
  let (_, level) ← cutAt? place source
  if level = [] then return Level.trace.rank else limit? level

/-- The limit after the brackets. -/
def limitAfter? (source : List Char) (place : Nat) : List Char → Option Nat
  | [] => some Level.trace.rank
  | '=' :: _ => limitFrom? source (place + 1)
  | _ => none

/-- The directive with the field that a text names, on which a value may
    follow. -/
def withField? (d : Directive) (text : List Char) : Option Directive :=
  let name := String.ofList (text.takeWhile (· != '='))
  match text.dropWhile (· != '=') with
  | [] => if text = [] then none else some { d with field := some name }
  | _ :: value =>
    if isValue (value.takeWhile (· != '=')) then
      some { d with field := some name, inSpan := true }
    else none

/-- The directive whose brackets open before a place. The rest of it starts
    there. -/
def afterBracket? (source target : List Char) (place : Nat) (rest : List Char) :
    Option Directive := do
  let inName := fun c => c != ']' && c != '\x7b'
  let nameEnd := place + byteCount (rest.takeWhile inName)
  let name ← part? place nameEnd source
  match rest.dropWhile inName with
  | ']' :: rest =>
    return { target, inSpan := true, limit := ← limitAfter? source (nameEnd + 1) rest }
  | _ :: rest =>
    let field := rest.takeWhile (· != '\x7d')
    let fieldEnd := nameEnd + 1 + byteCount field
    match rest.dropWhile (· != '\x7d') with
    | _ :: ']' :: rest =>
      let text ← part? (nameEnd + 1) fieldEnd source
      let limit ← limitAfter? source (fieldEnd + 2) rest
      withField? { target, inSpan := !name.isEmpty, limit } text
    | _ => none
  | [] => none

/-- The directive that a text writes. -/
def parse? (source : List Char) : Option Directive :=
  match Text.trim source with
  | [] => none
  | '[' :: rest => afterBracket? source [] 1 rest
  | c :: rest => do
    if !isTargetStart c then none
    let inTarget := fun c => c != '=' && c != '['
    let targetEnd := byteCount (c :: rest.takeWhile inTarget)
    match rest.dropWhile inTarget with
    | [] =>
      match limit? source with
      | some limit => return { limit }
      | none => return { target := source }
    | '=' :: _ =>
      return { target := ← part? 0 targetEnd source
               limit := ← limitFrom? source (targetEnd + 1) }
    | _ :: rest => afterBracket? source (← part? 0 targetEnd source) (targetEnd + 1) rest

/-- The directive speaks of the event. -/
def covers (d : Directive) (event : Event) : Bool :=
  !d.inSpan && d.target.isPrefixOf event.target.toList
    && d.field.all event.fieldNames.contains

/-- Of two directives for the same event the other one comes first: it has the
    longer target or, with the same target, a field or the later name of a
    field. -/
def yieldsTo (d other : Directive) : Bool :=
  if d.target.length ≠ other.target.length then d.target.length < other.target.length
  else match d.field, other.field with
    | none, _ => true
    | some _, none => false
    | some a, some b => !(b < a)

/-- The better of two directives for an event. Of two that mean the same the
    later one is better. -/
def prefer (best : Option Directive) (d : Directive) : Option Directive :=
  match best with
  | none => some d
  | some b => if b.yieldsTo d then some d else some b

end Directive

end Log

end KeywordTable
