import KeywordTable.Text.Basic

/-!
# The Keyword Range

The keywords of a header stand between two lines that are known by a text they
contain. Going down the lines there are two regions, outside and inside the
range: a line with the closing marker leads outside, a line with the opening
marker inside. The closing marker takes effect on its own line and the opening
marker only on the next, so neither of the two lines is inside, and a line with
both opens a range.

Nothing is checked. Without an opening marker all is outside, and a range that
is never closed runs to the end.

A scan is a map over the lines that carries the number of the next line and the
region reached. What it notes of a line is what was found there; the regions of
the line and after it follow from that.

## Main definitions

* `Markers`: The two texts that bound the range.
* `ScannedLine`: What a scan notes of a line.
* `ScannedLine.region`: The region that a line lies in.
* `ScannedLine.after`: The region that a line leads to.
* `Markers.scan`: The scan of a text.
-/

namespace KeywordTable

/-- The two texts that bound the keyword range. -/
structure Markers where
  opening : String := "Keyword"
  closing : String := "TEOF"
  deriving Repr, DecidableEq, Inhabited

/-- Where a line lies. -/
inductive Region where
  | outside
  | inside
  deriving Repr, DecidableEq, Inhabited

/-- What a scan notes of a line. Lines count from one. -/
structure ScannedLine where
  number : Nat
  chars : List Char
  /-- The region reached before the line. -/
  before : Region
  /-- The line contains the closing marker. -/
  closes : Bool
  /-- The line contains the opening marker. -/
  opens : Bool
  deriving Repr, DecidableEq

namespace ScannedLine

/-- The line as a string. -/
def text (line : ScannedLine) : String :=
  .ofList line.chars

/-- The region that the line lies in. -/
def region (line : ScannedLine) : Region :=
  if line.closes then .outside else line.before

/-- The region that the line leads to. -/
def after (line : ScannedLine) : Region :=
  if line.opens then .inside else line.region

/-- The line lies inside the range. -/
def inRange (line : ScannedLine) : Bool :=
  line.region == .inside

end ScannedLine

/-- How far a scan has come. -/
structure Scanner where
  /-- The number of the next line. -/
  number : Nat := 1
  /-- The region reached. -/
  region : Region := .outside
  deriving Repr, DecidableEq

namespace Markers

/-- The text contains the opening marker. -/
def opensAt (markers : Markers) (text : List Char) : Bool :=
  Text.occursIn markers.opening.toList text

/-- The text contains the closing marker. -/
def closesAt (markers : Markers) (text : List Char) : Bool :=
  Text.occursIn markers.closing.toList text

/-- Takes one line. -/
def scanLine (markers : Markers) (text : List Char) : StateM Scanner ScannedLine := do
  let scanner ← get
  let line : ScannedLine :=
    { number := scanner.number
      chars := text
      before := scanner.region
      closes := markers.closesAt text
      opens := markers.opensAt text }
  set { number := scanner.number + 1, region := line.after : Scanner }
  return line

/-- Takes lines, one after the other. -/
def scanLines (markers : Markers) (lines : List (List Char)) : StateM Scanner (List ScannedLine) :=
  lines.mapM markers.scanLine

/-- The scan of a text. -/
def scan (markers : Markers) (source : String) : List ScannedLine :=
  ((markers.scanLines (Text.lines source.toList)).run {}).1

/-- The lines of a text that lie inside the range. -/
def linesInRange (markers : Markers) (source : String) : List ScannedLine :=
  (markers.scan source).filter ScannedLine.inRange

end Markers

end KeywordTable
