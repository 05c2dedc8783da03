import KeywordTable.Markers
import KeywordTable.Text.Basic
import KeywordTable.Text.Lower

/-!
# Words

A line of the keyword range names its keyword in its first field, which ends at
the first comma or at the end of the line. What the field holds between the
blanks is the word; a line whose first field is blank has none.

A word is kept with the fact that it is one: it is not empty, has no comma in
it, and has no blank at either end. The table that is written from words relies
on that.

## Main definitions

* `IsWord`: The text is what a first field can hold.
* `Word`: A keyword as it is written in the header.
* `Word.ofLine?`: The word of a line.
* `Word.key`: The spelling that a keyword is looked up by.
* `Markers.words`: The words of the keyword range.
-/

namespace KeywordTable

/-- The text is what a first field can hold. -/
structure IsWord (cs : List Char) : Prop where
  nonempty : cs ≠ []
  no_comma : ',' ∉ cs
  head_not_blank : ∀ c ∈ cs.head?, Text.isBlank c = false
  last_not_blank : ∀ c ∈ cs.getLast?, Text.isBlank c = false

/-- A keyword as it is written in the header. -/
structure Word where
  chars : List Char
  isWord : IsWord chars

namespace Word

/-- The text of the first field of a line, without the blanks around it. -/
def field (line : List Char) : List Char :=
  Text.trim (line.takeWhile (· != ','))

/-- A first field that is not blank is a word. -/
theorem isWord_field {line : List Char} (h : field line ≠ []) : IsWord (field line) where
  nonempty := h
  no_comma hmem := by
    have := List.all_eq_true.1 (List.all_takeWhile (l := line) (p := (· != ',')))
    simpa using this ',' (Text.mem_of_mem_trim hmem)
  head_not_blank _ := Text.head_trim
  last_not_blank _ := Text.last_trim

/-- The word of a line. -/
def ofLine? (line : List Char) : Option Word :=
  if h : field line ≠ [] then some ⟨field line, isWord_field h⟩ else none

/-- The word as a string. -/
def text (word : Word) : String :=
  .ofList word.chars

/-- The spelling that the keyword is looked up by. -/
def key (word : Word) : String :=
  .ofList (Text.lower word.chars)

end Word

/-- The word of a line, if it lies inside the range. -/
def ScannedLine.word? (line : ScannedLine) : Option Word :=
  if line.inRange then Word.ofLine? line.chars else none

/-- The words of the keyword range, in the order of the lines. -/
def Markers.words (markers : Markers) (source : String) : List Word :=
  (markers.scan source).filterMap ScannedLine.word?

end KeywordTable
