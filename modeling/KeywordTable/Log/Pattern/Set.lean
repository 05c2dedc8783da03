import KeywordTable.Log.Pattern.Atom

/-!
# Sets of a Pattern

The characters between brackets. A set has atoms, ranges, named sets and other
sets as its items, and two groups of items can be combined by one of three
signs. It may start with a sign of negation, then with dashes or a closing
bracket that stand for themselves.

Of a set that is read its nesting is kept: how deep sets, groups of items and
combinations stand in each other.

## Main definitions

* `nestingOf`: The nesting of parts that stand together.
* `SetReading`: How far a set has been read.
* `setRest?`: Reads a set to its end.
-/

namespace KeywordTable

namespace Log

namespace Pattern

/-- The nesting of parts that stand together. One part alone adds nothing. -/
def nestingOf : List Nat → Nat
  | [] => 0
  | [n] => n
  | ns => ns.foldl max 0 + 1

/-- How far a set has been read. -/
structure SetReading where
  /-- The nesting of each item since the last combining sign. -/
  items : List Nat := []
  /-- The nesting of what stands before that sign. -/
  left : Option Nat := none
  deriving Repr, DecidableEq

namespace SetReading

/-- The nesting of all that has been read. -/
def nesting (s : SetReading) : Nat :=
  match s.left with
  | none => nestingOf s.items
  | some left => max left (nestingOf s.items) + 1

/-- The reading after one more item. -/
def push (s : SetReading) (item : Nat) : SetReading :=
  { s with items := item :: s.items }

/-- The reading after a combining sign. -/
def combine (s : SetReading) : SetReading :=
  { left := some s.nesting }

end SetReading

/-- The named sets. -/
def setNames : List String :=
  ["alnum", "alpha", "ascii", "blank", "cntrl", "digit", "graph", "lower", "print", "punct",
    "space", "upper", "word", "xdigit"]

/-- A named set after its opening bracket: whether it is negated, and what
    follows it. -/
def namedSet? (cs : List Char) : Option (Bool × List Char) :=
  match cs with
  | ':' :: cs =>
    let negated := cs.head? == some '^'
    let cs := if negated then cs.tail else cs
    match cs.dropWhile (· != ':') with
    | ':' :: ']' :: rest =>
      if setNames.contains (.ofList (cs.takeWhile (· != ':'))) then some (negated, rest) else none
    | _ => none
  | _ => none

/-- The dashes at the start of a set, and what follows them. The first number
    bounds how many there can be. -/
def leadingDashes (mode : Mode) : Nat → List Char → Nat × List Char
  | fuel + 1, '-' :: cs =>
    let (count, rest) := leadingDashes mode fuel (mode.skip cs)
    (count + 1, rest)
  | _, cs => (0, cs)

/-- Starts to read a set after its opening bracket. -/
def openSet? (mode : Mode) (cs : List Char) : Option (SetReading × List Char) := do
  let cs := mode.skip cs
  let negated := cs.head? == some '^'
  if negated && !mode.unicode then none
  let cs := if negated then mode.skip cs.tail else cs
  let (dashes, rest) := leadingDashes mode cs.length cs
  let (count, rest) := match dashes, rest with
    | 0, ']' :: rest => (1, mode.skip rest)
    | dashes, rest => (dashes, rest)
  if 0 < count && !mode.allowsInSet (.literal '-' false) then none
  if rest = [] then none
  return ({ items := List.replicate count 0 }, rest)

/-- An atom of a set or a range, and what follows it. -/
def setItem? (mode : Mode) (cs : List Char) : Option (List Char) := do
  let (first, rest) ← setAtom? mode cs
  if !mode.allowsInSet first then none
  match mode.skip rest with
  | [] => none
  | '-' :: rest =>
    if mode.peek? rest = some ']' ∨ mode.peek? rest = some '-' then return '-' :: rest
    let (last, rest) ← setAtom? mode (mode.skip rest)
    match first, last with
    | .literal a _, .literal b _ => if a ≤ b && mode.allowsInSet last then return rest else none
    | _, _ => none
  | rest => return rest

/-- Reads a set to its end: its nesting, and what follows it. The first number
    bounds the steps. -/
def setRest? (mode : Mode) : Nat → SetReading → List Char → Option (Nat × List Char)
  | 0, _, _ => none
  | fuel + 1, s, cs =>
    match mode.skip cs with
    | [] => none
    | ']' :: rest => some (s.nesting, rest)
    | '&' :: '&' :: rest | '-' :: '-' :: rest | '~' :: '~' :: rest =>
      setRest? mode fuel s.combine rest
    | '[' :: rest =>
      match namedSet? rest with
      | some (negated, rest) =>
        let refused := if mode.unicode then mode.caseless else negated
        if refused then none else setRest? mode fuel (s.push 0) rest
      | none => do
        let (inner, rest) ← openSet? mode rest
        let (nesting, rest) ← setRest? mode fuel inner rest
        setRest? mode fuel (s.push (nesting + 1)) rest
    | cs => do setRest? mode fuel (s.push 0) (← setItem? mode cs)

/-- Reads a set after its opening bracket: its nesting, and what follows it. -/
def set? (mode : Mode) (cs : List Char) : Option (Nat × List Char) := do
  let (s, rest) ← openSet? mode cs
  let (nesting, rest) ← setRest? mode cs.length s rest
  return (nesting + 1, rest)

end Pattern

end Log

end KeywordTable
