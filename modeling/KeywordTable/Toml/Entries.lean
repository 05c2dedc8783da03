import KeywordTable.Toml.Node

/-!
# Building Tables

How a table grows. A table can be reached by a path of keys, from a header or
from a dotted key, and both make the tables that are missing on the way. They
differ in what they may pass through: a header may go through any table that is
not closed, and through an array of tables into its last one; a dotted key may
not enter a table that has a header of its own. At its end a dotted key has to
arrive in a table that dotted keys made.

The whole way is one recursion along the path. What happens at its end is a
parameter, so that adding a pair and adding a section share the walk.

## Main definitions

* `Pair`: A key with its value as it was written.
* `Entries.alter`: Changes the node of one key, or adds it at the end.
* `Entries.editAt`: Changes the table at the end of a path.
* `Entries.addPair`: Adds a pair.
-/

namespace KeywordTable

namespace Toml

/-- A path of keys with a last one. -/
structure KeyPath where
  parents : List Key
  last : Key
  deriving Repr, DecidableEq, Inhabited

/-- A key, dotted or not, with its value. -/
structure Pair where
  path : KeyPath
  value : Node

namespace Entries

/-- The node that a key has. -/
def find? (name : String) (es : Entries) : Option Node :=
  (List.find? (fun e => e.1.name == name) es).map (·.2)

/-- Changes the node of one key in its place, or adds it at the end. -/
def alter (key : Key) (change : Option Node → Option Node) : Entries → Option Entries
  | [] => (change none).map fun n => [(key, n)]
  | (k, n) :: es =>
    if k.name = key.name then (change (some n)).map fun n => (k, n) :: es
    else (alter key change es).map ((k, n) :: ·)

/-- The entries without those of one key. -/
def erase (name : String) (es : Entries) : Entries :=
  es.filter fun e => e.1.name != name

/-- Changes the last of some tables, keeping its span. -/
def editLast (edit : Entries → Option Entries) :
    List (Entries × Span) → Option (List (Entries × Span))
  | [] => none
  | [(es, span)] => (edit es).map fun es => [(es, span)]
  | t :: u :: ts => (editLast edit (u :: ts)).map (t :: ·)

/-- Changes the table at the end of a path. Tables that are missing on the way
    are made, with the origin `made`, and `edit` is told the origin of the table
    that it changes. -/
def editAt (made : Origin) (edit : Origin → Entries → Option Entries) :
    List Key → Origin → Entries → Option Entries
  | [], origin, es => edit origin es
  | key :: path, _, es =>
    alter key (fun
      | none => (editAt made edit path made []).map fun es => .table made es key.span
      | some (.table origin es span) =>
        if origin = .inline ∨ (made = .dotted ∧ origin = .header) then none
        else (editAt made edit path origin es).map fun es => .table origin es span
      | some (.tables items) => (editLast (editAt made edit path .header) items).map .tables
      | some _ => none) es

/-- Adds a node under a key that is not taken. -/
def addNew (key : Key) (node : Node) : Entries → Option Entries :=
  alter key fun
    | none => some node
    | some _ => none

/-- Adds a pair. The table that a dotted key leads to has to be one that dotted
    keys made. -/
def addPair (es : Entries) (pair : Pair) : Option Entries :=
  match pair.path.parents with
  | [] => addNew pair.path.last pair.value es
  | parents =>
    editAt .dotted (fun origin es =>
      if origin = .dotted then addNew pair.path.last pair.value es else none) parents .dotted es

/-- The entries that the pairs make, one after the other. -/
def ofPairs? (pairs : List Pair) : Option Entries :=
  pairs.foldlM addPair []

end Entries

end Toml

end KeywordTable
