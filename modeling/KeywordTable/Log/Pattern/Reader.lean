import KeywordTable.Log.Pattern.Set
import KeywordTable.Text.AlphanumericData

/-!
# Reading Patterns

What is a pattern. A pattern is made of alternatives, an alternative of items,
and an item is an atom, a set, a group, or one of these repeated. A group can
have a name, which no other group has, or switches that hold inside of it.
Switches that stand alone hold up to the end of the group they are in.

A pattern is read and judged from the left in one go. What is kept of its parts
is their nesting, which has a limit, and whether they can be repeated: switches
cannot.

## Main definitions

* `Reading`: How far a group has been read.
* `groupHead?`: How a group starts.
* `groupRest?`: Reads a group to its end.
* `isPattern`: The text is a pattern.
-/

namespace KeywordTable

namespace Log

namespace Pattern

/-- How deep parts of a pattern may stand in each other. -/
def maxNesting : Nat := 250

/-- What is kept of an item. -/
structure Item where
  nesting : Nat := 0
  repeatable : Bool := true
  deriving Repr, DecidableEq

/-- How far a group has been read. -/
structure Reading where
  mode : Mode := {}
  /-- The names of groups so far. -/
  names : List (List Char) := []
  /-- The nesting of each alternative that is complete. -/
  alternatives : List Nat := []
  /-- The items of the last alternative, the last one first. -/
  items : List Item := []

namespace Reading

/-- The nesting of the last alternative. -/
def lastNesting (r : Reading) : Nat :=
  nestingOf (r.items.map Item.nesting)

/-- The nesting of all that has been read. -/
def nesting (r : Reading) : Nat :=
  nestingOf (r.lastNesting :: r.alternatives)

/-- The reading after one more item. -/
def push (r : Reading) (item : Item) : Reading :=
  { r with items := item :: r.items }

/-- The reading with a new alternative. -/
def alternate (r : Reading) : Reading :=
  { r with alternatives := r.lastNesting :: r.alternatives, items := [] }

/-- The reading with its last item repeated. -/
def repeatLast? (r : Reading) : Option Reading :=
  match r.items with
  | { nesting, repeatable := true } :: items =>
    some { r with items := { nesting := nesting + 1 } :: items }
  | _ => none

end Reading

/-- How a group starts. -/
inductive GroupHead where
  /-- Switches without a group. -/
  | switches (mode : Mode)
  /-- A group, with its name if it has one. -/
  | group (mode : Mode) (name : Option (List Char))

/-- The text is the name of a group. -/
def isGroupName : List Char → Bool
  | [] => false
  | c :: cs =>
    (c == '_' || Text.isAlphabetic c)
      && cs.all fun c => c == '_' || c == '.' || c == '[' || c == ']' || Text.isAlphanumeric c

/-- A group with the name that comes next. -/
def namedGroup? (mode : Mode) (names : List (List Char)) (cs : List Char) :
    Option (GroupHead × List Char) :=
  let name := cs.takeWhile (· != '>')
  match cs.dropWhile (· != '>') with
  | _ :: rest =>
    if isGroupName name && !names.contains name then some (.group mode (some name), rest) else none
  | [] => none

/-- Switches, alone or with a group. -/
def switches? (mode : Mode) (cs : List Char) : Option (GroupHead × List Char) := do
  let isLetter := fun c => c != ':' && c != ')'
  let letters := cs.takeWhile isLetter
  let inner ← mode.switch? letters
  match cs.dropWhile isLetter with
  | ':' :: rest => return (.group inner none, rest)
  | _ :: rest => if letters = [] then none else return (.switches inner, rest)
  | [] => none

/-- How a group starts, after its opening parenthesis. Nothing may be said of
    what stands around a match. -/
def groupHead? (mode : Mode) (names : List (List Char)) (cs : List Char) :
    Option (GroupHead × List Char) :=
  match mode.skip cs with
  | '?' :: '=' :: _ | '?' :: '!' :: _ => none
  | '?' :: '<' :: '=' :: _ | '?' :: '<' :: '!' :: _ => none
  | '?' :: 'P' :: '<' :: rest | '?' :: '<' :: rest => namedGroup? mode names rest
  | '?' :: rest => switches? mode rest
  | rest => some (.group mode none, rest)

/-- Reads a group to its end: its nesting, the names of groups so far, and what
    follows. The first number bounds the steps. -/
def groupRest? : Nat → Reading → List Char → Option (Nat × List (List Char) × List Char)
  | 0, _, _ => none
  | fuel + 1, r, cs =>
    match r.mode.skip cs with
    | [] => some (r.nesting, r.names, [])
    | ')' :: rest => some (r.nesting, r.names, ')' :: rest)
    | '|' :: rest => groupRest? fuel r.alternate rest
    | '[' :: rest => do
      let (nesting, rest) ← set? r.mode rest
      groupRest? fuel (r.push { nesting }) rest
    | '*' :: rest | '+' :: rest | '?' :: rest => do
      let r ← r.repeatLast?
      groupRest? fuel r (if rest.head? = some '?' then rest.tail else rest)
    | '\x7b' :: _ => none
    | '(' :: rest => do
      match ← groupHead? r.mode r.names rest with
      | (.switches mode, rest) =>
        groupRest? fuel { r.push { repeatable := false } with mode } rest
      | (.group mode name, rest) =>
        let (nesting, names, rest) ←
          groupRest? fuel { mode, names := name.toList ++ r.names } rest
        match rest with
        | ')' :: rest => groupRest? fuel { r.push { nesting := nesting + 1 } with names } rest
        | _ => none
    | cs => do
      let (atom, rest) ← atom? r.mode cs
      if r.mode.allows atom then groupRest? fuel (r.push {}) rest else none

/-- The text is a pattern. -/
def isPattern (cs : List Char) : Bool :=
  match groupRest? (cs.length + 1) {} cs with
  | some (nesting, _, []) => nesting ≤ maxNesting
  | _ => false

end Pattern

end Log

end KeywordTable
