/-!
# Texts

A text is a list of characters wherever it is looked into. What a text is asked
here needs no more than its characters: which of them are blanks, whether
another text occurs in it, and which pieces and lines it has.

A character property is published as a list of code point ranges, and every one
in use is looked up in the same way. A blank is any character with the property
White_Space. That is more than the ASCII blanks and less than what looks empty:
the no-break spaces and U+0085 are blanks, the zero-width space and the controls
U+001C to U+001F are not.

A text can be cut at every occurrence of one character. There is always one piece
more than there are cuts, so a text without the character is one piece, and the
empty text is one empty piece. Cutting is a fold from the right: each character
joins the piece that follows it or, if it is the separator, opens a new one.

A line ends at a line feed, and a carriage return directly before that line feed
belongs to the ending. A last piece without a line feed is a line if it is not
empty, and keeps its carriage return. So the text is first cut at every line
feed, and all pieces but the last lose their carriage return.

## Main definitions

* `CodeRange`: The code points from `first` to `last`, both included.
* `CodeRange.covers`: A character belongs to one of the ranges of a table.
* `isBlank`: The character is a blank.
* `trim`: A text without the blanks at its two ends.
* `occursIn`: The text occurs, in one piece, in another.
* `split`: The text cut at every separator.
* `lines`: The lines of the text without their endings.

## Theorems

* `trimEnd_append`: What is cut off at the end is blank.
* `mem_of_mem_trim`: A trimmed text has no new characters.
* `head_trim`: A trimmed text does not start with a blank.
* `last_trim`: A trimmed text does not end in a blank.
-/

namespace KeywordTable

/-- The code points from `first` to `last`, both included. -/
structure CodeRange where
  first : Nat
  last : Nat
  deriving Repr, DecidableEq

namespace CodeRange

/-- The character's code point lies in the range. -/
def contains (r : CodeRange) (c : Char) : Bool :=
  r.first ≤ c.toNat && c.toNat ≤ r.last

/-- The character's code point lies in one of the ranges. -/
def covers (table : List CodeRange) (c : Char) : Bool :=
  table.any (·.contains c)

end CodeRange

namespace Text

/-! ### Blanks -/

/-- The ranges of blank characters. -/
def blanks : List CodeRange := [
  ⟨0x0009, 0x000D⟩, ⟨0x0020, 0x0020⟩, ⟨0x0085, 0x0085⟩, ⟨0x00A0, 0x00A0⟩,
  ⟨0x1680, 0x1680⟩, ⟨0x2000, 0x200A⟩, ⟨0x2028, 0x2029⟩, ⟨0x202F, 0x202F⟩,
  ⟨0x205F, 0x205F⟩, ⟨0x3000, 0x3000⟩]

/-- The character is a blank. -/
def isBlank (c : Char) : Bool :=
  CodeRange.covers blanks c

/-- The text without the blanks at its end. -/
def trimEnd (cs : List Char) : List Char :=
  (cs.reverse.dropWhile isBlank).reverse

/-- The text without the blanks at its two ends. -/
def trim (cs : List Char) : List Char :=
  trimEnd (cs.dropWhile isBlank)

/-- What is cut off at the end is blank, and nothing else is lost. -/
theorem trimEnd_append (cs : List Char) :
    ∃ tail, cs = trimEnd cs ++ tail ∧ ∀ c ∈ tail, isBlank c = true := by
  refine ⟨(cs.reverse.takeWhile isBlank).reverse, ?_, ?_⟩
  · rw [trimEnd, ← List.reverse_append, List.takeWhile_append_dropWhile, List.reverse_reverse]
  · intro c hc
    exact List.all_eq_true.1 (List.all_takeWhile (p := isBlank)) c (List.mem_reverse.1 hc)

theorem mem_of_mem_trim {c : Char} {cs : List Char} (h : c ∈ trim cs) : c ∈ cs := by
  obtain ⟨tail, heq, -⟩ := trimEnd_append (cs.dropWhile isBlank)
  refine (List.dropWhile_sublist isBlank).mem ?_
  rw [heq]
  exact List.mem_append_left tail h

/-- A trimmed text does not start with a blank. -/
theorem head_trim {c : Char} {cs : List Char} (h : c ∈ (trim cs).head?) : isBlank c = false := by
  obtain ⟨tail, heq, -⟩ := trimEnd_append (cs.dropWhile isBlank)
  -- The first character that is left was already the first before the end was cut.
  have hhead : (cs.dropWhile isBlank).head? = some c := by
    rw [heq, List.head?_append, show (trimEnd (cs.dropWhile isBlank)).head? = some c from h]
    rfl
  have hnot := List.head?_dropWhile_not isBlank cs
  rw [hhead] at hnot
  exact hnot

/-- A trimmed text does not end in a blank. -/
theorem last_trim {c : Char} {cs : List Char} (h : c ∈ (trim cs).getLast?) : isBlank c = false := by
  have hnot := List.head?_dropWhile_not isBlank (cs.dropWhile isBlank).reverse
  rw [trim, trimEnd, List.getLast?_reverse] at h
  rw [h] at hnot
  exact hnot

/-! ### Searching and cutting -/

/-- The text `needle` occurs, in one piece, in the other. -/
def occursIn (needle : List Char) : List Char → Bool
  | [] => needle.isEmpty
  | c :: cs => needle.isPrefixOf (c :: cs) || occursIn needle cs

/-- Puts a character before the first of the pieces, or opens a new piece if
    it is the separator. -/
def addToPieces (sep c : Char) (ps : List (List Char)) : List (List Char) :=
  if c = sep then [] :: ps
  else match ps with
    | [] => [[c]]
    | p :: rest => (c :: p) :: rest

/-- The text cut at every separator. -/
def split (sep : Char) (cs : List Char) : List (List Char) :=
  cs.foldr (addToPieces sep) [[]]

/-- The line without a carriage return at its end. -/
def dropReturn (cs : List Char) : List Char :=
  if cs.getLast? = some '\r' then cs.dropLast else cs

/-- The lines of the text without their endings. -/
def lines (cs : List Char) : List (List Char) :=
  let ps := split '\n' cs
  ps.dropLast.map dropReturn ++ (ps.getLast?.toList.filter fun p => !p.isEmpty)

end Text

end KeywordTable
