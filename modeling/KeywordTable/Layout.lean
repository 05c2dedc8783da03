/-!
# Indented Lines

Text written line by line, where each line starts as far in as its level asks.
A block is an opening line, a body one level deeper, and a closing line at the
level of the opening one. A level can also be gone down or up without a block;
at the outermost level going up does nothing.

What is to be written is a tree of steps, and writing it only ever adds to the
text.

## Main definitions

* `Layout`: A text being written.
* `Layout.Step`: Something to write.
* `Layout.add`: Writes a step.
* `Layout.render`: The text that steps write.
-/

namespace KeywordTable

/-- A text being written. -/
structure Layout where
  /-- The blanks that one level is deep. -/
  size : Nat
  /-- The blanks that the next line starts with. -/
  indent : Nat := 0
  text : String := ""
  deriving Repr, DecidableEq

namespace Layout

/-- Something to write. -/
inductive Step where
  /-- Go one level deeper. -/
  | deeper
  /-- Go one level back, if there is one. -/
  | back
  /-- Write a line. -/
  | line (text : String)
  /-- Write a line with nothing on it, not even blanks. -/
  | blank
  /-- Write a body one level deeper between two lines. -/
  | block (opening closing : String) (body : List Step)
  deriving Repr, Inhabited

/-- The layout one level deeper. -/
def deeper (layout : Layout) : Layout :=
  { layout with indent := layout.indent + layout.size }

/-- The layout one level back, if there is one. -/
def back (layout : Layout) : Layout :=
  if layout.size ≤ layout.indent then { layout with indent := layout.indent - layout.size }
  else layout

/-- Writes a line. -/
def addLine (layout : Layout) (line : String) : Layout :=
  { layout with
    text := layout.text ++ .ofList (List.replicate layout.indent ' ') ++ line ++ "\n" }

/-- Writes a line with nothing on it. -/
def addBlank (layout : Layout) : Layout :=
  { layout with text := layout.text ++ "\n" }

mutual

/-- Writes a step. -/
def add (layout : Layout) : Step → Layout
  | .deeper => layout.deeper
  | .back => layout.back
  | .line text => layout.addLine text
  | .blank => layout.addBlank
  | .block opening closing body =>
    ((addAll (layout.addLine opening).deeper body).back).addLine closing

/-- Writes steps, one after the other. -/
def addAll (layout : Layout) : List Step → Layout
  | [] => layout
  | step :: steps => addAll (add layout step) steps

end

/-- The text that steps write. -/
def render (size : Nat) (steps : List Step) : String :=
  (addAll { size } steps).text

end Layout

end KeywordTable
