import KeywordTable.Toml.Grammar

/-!
# Documents

A document is a run of pairs followed by sections, each a header with the pairs
below it. Put together in order they make one table.

A table that came to be on the way to a longer header is still without a header
of its own. When it gets one it keeps what it holds and moves to the end of the
table it stands in. The span of a section reaches from its header to the end of
its last value.

## Main definitions

* `Section`: A header with the pairs below it.
* `Document`: The pairs before the first header, and the sections.
* `Document.entries?`: The table that a document makes.
* `parse?`: Reads a text as the table it makes.
-/

namespace KeywordTable

namespace Toml

/-- A header with the pairs below it. -/
structure Section where
  header : Header
  pairs : List Pair

/-- The pairs before the first header, and the sections. -/
structure Document where
  pairs : List Pair
  sections : List Section

/-- Puts one more line before a document. -/
def Document.addLine (line : Statement) (doc : Document) : Document :=
  match line with
  | .pair p => { doc with pairs := p :: doc.pairs }
  | .header header => { pairs := [], sections := { header, pairs := doc.pairs } :: doc.sections }

/-- The document that consists of the lines. -/
def Document.ofLines (lines : List Statement) : Document :=
  lines.foldr Document.addLine { pairs := [], sections := [] }

namespace Section

/-- From the header to the end of the last value. -/
def span (s : Section) : Span :=
  match s.pairs.getLast? with
  | some p => s.header.span.through p.value.span
  | none => s.header.span

/-- Adds the pairs of the section to entries that are there. -/
def extend (s : Section) (es : Entries) : Option Entries :=
  s.pairs.foldlM Entries.addPair es

/-- Adds the section to the table that its last key belongs to. -/
def addIn (s : Section) (es : Entries) : Option Entries :=
  let key := s.header.path.last
  if s.header.isArray then
    es.alter key fun
      | none => do return .tables [(← s.extend [], s.span)]
      | some (.tables items) => do return .tables (items ++ [(← s.extend [], s.span)])
      | some _ => none
  else
    match es.find? key.name with
    | none => do return es ++ [(key, .table .header (← s.extend []) s.span)]
    | some (.table .implicit inner _) => do
      return es.erase key.name ++ [(key, .table .header (← s.extend inner) s.span)]
    | some _ => none

/-- Adds the section to the table of the whole document. -/
def addTo (es : Entries) (s : Section) : Option Entries :=
  es.editAt .implicit (fun _ => s.addIn) s.header.path.parents .header

end Section

/-- The table that a document makes. -/
def Document.entries? (doc : Document) : Option Entries := do
  doc.sections.foldlM Section.addTo (← Entries.ofPairs? doc.pairs)

/-- Reads a text as the table it makes. -/
def parse? (text : List Char) : Option Entries := do
  (Document.ofLines (← statements text)).entries?

end Toml

end KeywordTable
