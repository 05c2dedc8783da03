import KeywordTable.Number.Binary64

/-!
# The Parts of a Document

What a TOML document holds once it has been read. Every part remembers the
stretch of text it was written in, because a part that turns out not to be
wanted is reported by pointing at that stretch.

A position in the text is given by what is left of the text there. It costs
nothing to keep while reading, and a line and column can be counted from it
when one is needed.

Tables are all of one kind here; what sets them apart is how they came to be,
since that decides what may still be added to them. A table in braces is
finished, a table with a header of its own may not get a second one, and the
two kinds that were made on the way to something else may each be completed by
the means that made them.

## Main definitions

* `Span`: A stretch of the text.
* `Key`: A key as it was written.
* `Scalar`: A value that is neither an array nor a table.
* `Origin`: How a table came to be.
* `Node`: A value, a table, or an array of tables.
-/

namespace KeywordTable

namespace Toml

/-- A stretch of the text, given by what is left of the text at its two
    ends. -/
structure Span where
  start : List Char
  stop : List Char
  deriving Repr, DecidableEq, Inhabited

/-- A key as it was written, which is more than its name if it is quoted. -/
structure Key where
  name : String
  span : Span
  deriving Repr, DecidableEq, Inhabited

/-- A value that is neither an array nor a table. Of a date or time it matters
    only that it is one. -/
inductive Scalar where
  | string (text : String)
  | integer (value : Int)
  | float (value : Binary64)
  | boolean (value : Bool)
  | datetime
  deriving Repr, DecidableEq

/-- How a table came to be. -/
inductive Origin where
  /-- Written in braces. -/
  | inline
  /-- Given a header of its own. -/
  | header
  /-- Made on the way to a longer header. -/
  | implicit
  /-- Made on the way to the end of a dotted key. -/
  | dotted
  deriving Repr, DecidableEq

/-- A value, a table, or an array of tables. The entries of a table stand in
    the order they were made, and an array of tables holds for each its entries
    and its span. -/
inductive Node where
  | scalar (value : Scalar) (span : Span)
  | array (items : List Node) (span : Span)
  | table (origin : Origin) (entries : List (Key × Node)) (span : Span)
  | tables (items : List (List (Key × Node) × Span))

instance : Inhabited Node := ⟨.tables []⟩

/-- The entries of a table, in the order they were made. -/
abbrev Entries := List (Key × Node)

/-- The span from the start of one to the end of another. -/
def Span.through (first last : Span) : Span :=
  { start := first.start, stop := last.stop }

/-- The stretch of text that stands for the node. An array of tables reaches
    from its first header to the end of its last table. -/
def Node.span : Node → Span
  | .scalar _ s => s
  | .array _ s => s
  | .table _ _ s => s
  | .tables items =>
    match items.head?, items.getLast? with
    | some (_, first), some (_, last) => first.through last
    | _, _ => default

end Toml

end KeywordTable
