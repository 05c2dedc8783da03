import KeywordTable.Text.Basic
import KeywordTable.Toml.Node

/-!
# Pointing at a Stretch of Text

A report on a stretch of a document: its line and column, the line itself, and
carets below the stretch. Lines and columns count from one. A column counts
characters; the carets are as many as the stretch has bytes, as long as the line
lasts, and there is always one.

## Main definitions

* `report`: The report on a stretch of a document.
-/

namespace KeywordTable

namespace Toml

/-- The number of bytes that the text takes. -/
def byteCount (cs : List Char) : Nat :=
  cs.foldl (fun n c => n + c.utf8Size) 0

/-- Blanks. -/
def blanks (n : Nat) : String :=
  .ofList (List.replicate n ' ')

/-- The report on a stretch of a document, with the reason for it. -/
def report (text : List Char) (span : Span) (reason : String) : String :=
  let before := Text.split '\n' (text.take (text.length - span.start.length))
  let column := (before.getLast?.getD []).length
  let line := (Text.split '\n' text)[before.length - 1]?.getD []
  let number := toString before.length
  let gutter := blanks (number.length + 1) ++ "|"
  let length := byteCount span.start - byteCount span.stop
  let carets := max 1 (min length (byteCount line - column))
  "TOML parse error at line " ++ number ++ ", column " ++ toString (column + 1) ++ "\n"
    ++ gutter ++ "\n"
    ++ number ++ " | " ++ .ofList line ++ "\n"
    ++ gutter ++ blanks (column + 1) ++ .ofList (List.replicate carets '^') ++ "\n"
    ++ reason ++ "\n"

end Toml

end KeywordTable
