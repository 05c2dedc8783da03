import KeywordTable.Toml.Entries
import KeywordTable.Toml.Number

/-!
# The Grammar of a Document

Readers for keys, values and whole lines. A reader takes what is left of the
text and returns what it read with what is left after it, or nothing if the
text is not what it should be; there is no second try anywhere, since the first
characters decide what has to follow.

Arrays and tables in braces hold values again, at most `maxDepth` deep. The
reader of values is a recursion on that depth, and takes the text apart with
helpers that are given the reader of the next depth. Those helpers count down
from the length of the text. Each round uses up at least one character, so they
never reach zero on a text that is well formed.

## Main definitions

* `keyPath`: Reads a key, dotted or not.
* `value`: Reads a value.
* `Statement`: What one line says.
* `statements`: Reads a whole document as its lines.
-/

namespace KeywordTable

namespace Toml

/-- The most arrays and tables in braces that may stand one in the other. -/
def maxDepth : Nat := 79

/-! ### Blanks and comments -/

/-- The text without the blanks at its start. -/
def skipSpace (cs : List Char) : List Char :=
  cs.dropWhile isSpace

/-- The text without a comment at its start, if there is one. -/
def skipComment : List Char → List Char
  | '#' :: cs => cs.dropWhile isPlain
  | cs => cs

/-- Reads the rest of a line that says nothing more. -/
def lineEnd (cs : List Char) : Option (List Char) :=
  match skipComment (skipSpace cs) with
  | [] => some []
  | cs => newline cs

/-- Reads what may stand between the items of an array: blanks, line endings,
    and comments up to a line ending. -/
def skipLines (inComment : Bool) : List Char → Option (List Char)
  | [] => if inComment then none else some []
  | '\r' :: '\n' :: cs => skipLines false cs
  | '\n' :: cs => skipLines false cs
  | c :: cs =>
    if inComment then (if isPlain c then skipLines true cs else none)
    else if isSpace c then skipLines false cs
    else if c = '#' then skipLines true cs
    else some (c :: cs)

/-! ### Keys -/

/-- The character may stand in a key without quotes. -/
def isBare (c : Char) : Bool :=
  c.isAlphanum || c == '_' || c == '-'

/-- Reads the text of one key. -/
def keyText : List Char → Option (List Char × List Char)
  | '"' :: cs => basicRest [] cs
  | '\'' :: cs => literalRest [] cs
  | cs => if (cs.takeWhile isBare).isEmpty then none else some (cs.span isBare)

/-- Reads one key. -/
def key (cs : List Char) : Option (Key × List Char) := do
  let (name, rest) ← keyText cs
  return ({ name := .ofList name, span := { start := cs, stop := rest } }, rest)

/-- Reads keys with dots between them. -/
def keys : Nat → List Char → Option (List Key × List Char)
  | 0, _ => none
  | fuel + 1, cs => do
    let (k, rest) ← key (skipSpace cs)
    match skipSpace rest with
    | '.' :: rest =>
      let (ks, rest) ← keys fuel rest
      return (k :: ks, rest)
    | rest => return ([k], rest)

/-- Reads a key, dotted or not, and the blanks around it. -/
def keyPath (cs : List Char) : Option (KeyPath × List Char) := do
  let (ks, rest) ← keys (cs.length + 1) cs
  if ks.length ≤ maxDepth then
    let last ← ks.getLast?
    return ({ parents := ks.dropLast, last }, rest)
  else none

/-! ### Values -/

/-- Reads a value that is neither an array nor a table. -/
def scalar : List Char → Option (Scalar × List Char)
  | '"' :: cs => (string ('"' :: cs)).map fun (s, rest) => (.string (.ofList s), rest)
  | '\'' :: cs => (string ('\'' :: cs)).map fun (s, rest) => (.string (.ofList s), rest)
  | 't' :: 'r' :: 'u' :: 'e' :: cs => some (.boolean true, cs)
  | 'f' :: 'a' :: 'l' :: 's' :: 'e' :: cs => some (.boolean false, cs)
  | cs => numeric cs

/-- Reads the items of an array up to the closing bracket. A comma may follow
    the last one. -/
def items (item : List Char → Option (Node × List Char)) :
    Nat → List Char → Option (List Node × List Char)
  | 0, _ => none
  | fuel + 1, cs => do
    match ← skipLines false cs with
    | ']' :: rest => return ([], rest)
    | cs =>
      let (n, rest) ← item cs
      match ← skipLines false rest with
      | ',' :: rest =>
        let (ns, rest) ← items item fuel rest
        return (n :: ns, rest)
      | ']' :: rest => return ([n], rest)
      | _ => none

/-- Reads a key, the equals sign and a value. -/
def pair (item : List Char → Option (Node × List Char)) (cs : List Char) :
    Option (Pair × List Char) := do
  let (path, rest) ← keyPath cs
  let rest ← expect '=' rest
  let (value, rest) ← item (skipSpace rest)
  return ({ path, value }, rest)

/-- Reads the pairs of a table in braces up to the closing brace, of which
    there is at least one. -/
def pairs (item : List Char → Option (Node × List Char)) :
    Nat → List Char → Option (List Pair × List Char)
  | 0, _ => none
  | fuel + 1, cs => do
    let (p, rest) ← pair item cs
    match skipSpace rest with
    | ',' :: rest =>
      let (ps, rest) ← pairs item fuel rest
      return (p :: ps, rest)
    | '\x7d' :: rest => return ([p], rest)
    | _ => none

/-- Reads a table in braces after the opening one. -/
def inlineTable (item : List Char → Option (Node × List Char)) (cs : List Char) :
    Option (Entries × List Char) :=
  match skipSpace cs with
  | '\x7d' :: rest => some ([], rest)
  | cs => do
    let (ps, rest) ← pairs item (cs.length + 1) cs
    return (← Entries.ofPairs? ps, rest)

/-- Reads a value that holds arrays and tables at most `depth` deep. -/
def value (depth : Nat) (cs : List Char) : Option (Node × List Char) :=
  match depth, cs with
  | depth + 1, '[' :: rest => do
    let (ns, stop) ← items (value depth) (rest.length + 1) rest
    return (.array ns { start := cs, stop }, stop)
  | depth + 1, '\x7b' :: rest => do
    let (es, stop) ← inlineTable (value depth) rest
    return (.table .inline es { start := cs, stop }, stop)
  | _, cs => do
    let (x, stop) ← scalar cs
    return (.scalar x { start := cs, stop }, stop)

/-! ### Lines -/

/-- A header. One in double brackets adds a table to an array. -/
structure Header where
  path : KeyPath
  isArray : Bool
  span : Span

/-- What one line says. -/
inductive Statement where
  | pair (pair : Pair)
  | header (header : Header)

/-- Reads a header. -/
def header (cs : List Char) : Option (Header × List Char) :=
  match cs with
  | '[' :: '[' :: rest => do
    let (path, rest) ← keyPath rest
    let stop ← expect ']' (← expect ']' rest)
    return ({ path, isArray := true, span := { start := cs, stop } }, stop)
  | '[' :: rest => do
    let (path, rest) ← keyPath rest
    let stop ← expect ']' rest
    return ({ path, isArray := false, span := { start := cs, stop } }, stop)
  | _ => none

/-- Reads a line that says something, without its end. -/
def statement : List Char → Option (Statement × List Char)
  | '[' :: cs => (header ('[' :: cs)).map fun (h, rest) => (.header h, rest)
  | cs => (pair (value maxDepth) cs).map fun (p, rest) => (.pair p, rest)

/-- Reads all that is left as lines. -/
def statementsFrom : Nat → List Char → Option (List Statement)
  | 0, _ => none
  | fuel + 1, cs =>
    match skipSpace cs with
    | [] => some []
    | c :: cs =>
      if c = '#' ∨ c = '\r' ∨ c = '\n' then do statementsFrom fuel (← lineEnd (c :: cs))
      else do
        let (s, rest) ← statement (c :: cs)
        return s :: (← statementsFrom fuel (← lineEnd rest))

/-- The text without a byte order mark at its start. -/
def dropMark : List Char → List Char
  | '\ufeff' :: cs => cs
  | cs => cs

/-- Reads a whole document as its lines. -/
def statements (text : List Char) : Option (List Statement) :=
  statementsFrom (text.length + 1) (dropMark text)

end Toml

end KeywordTable
