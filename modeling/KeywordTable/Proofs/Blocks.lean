import KeywordTable.Proofs.Scan
import Mathlib.Data.List.Infix

/-!
# Keyword Blocks

The words of a header that is written the way headers are meant to be: blocks
of keywords, each between an opening and a closing line, and other lines around
them. For such a header there is no need to follow a scan to say what the words
are. They are the first fields of the lines between the two lines of each
block, block after block.

A block is a structure that carries the facts that make it one, and so is a gap
between blocks. The conditions are as weak as they can be. An opening line may
contain the closing marker as well, since the opening marker is looked at last.
A gap may contain closing markers, since there is nothing to close. A closing
line may not contain the opening marker, since that would open a range again.

`Yields` is what the scan of a stretch of lines comes to for the rest of the
scan: from a region, the words found and the region it leads to. It composes
over the stretches, so a block is its opening line, its body and its closing
line, and an outline is gaps and blocks, each proved on its own.

## Main definitions

* `Gap`: Lines that open no range.
* `OpenBlock`: An opening line and the lines below it.
* `Block`: The same, with a closing line.
* `Outline`: The lines of a header, taken apart into gaps and blocks.
* `Markers.Yields`: What the scan of a stretch of lines comes to.
* `firstField`: The first field of a line, without the blanks around it.

## Theorems

* `yields_append`: Stretches follow one another.
* `yields_line`: What the scan of one line comes to.
* `yields_gap`: A gap has no words and leads outside.
* `yields_body`: Each line of a body is asked for its word.
* `yields_block`: A block has the words of its body and leads outside.
* `yields_blocks`: So have blocks with gaps before them.
* `words_of_outline`: The words of a header that consists of blocks.
-/

namespace KeywordTable

/-- Lines that open no range. -/
structure Gap (markers : Markers) where
  lines : List (List Char)
  not_opens : ∀ line ∈ lines, ¬ markers.opening.toList <:+: line

/-- A line that opens a range, and lines below it that neither open nor close
    one. -/
structure OpenBlock (markers : Markers) where
  first : List Char
  body : List (List Char)
  opens : markers.opening.toList <:+: first
  plain : ∀ line ∈ body, ¬ markers.opening.toList <:+: line ∧ ¬ markers.closing.toList <:+: line

/-- An open block and the line that closes it. -/
structure Block (markers : Markers) extends OpenBlock markers where
  last : List Char
  closes : markers.closing.toList <:+: last
  not_reopens : ¬ markers.opening.toList <:+: last

/-- The lines of a header, taken apart: blocks, each with the gap before it, the
    gap after them, and a last block that is never closed, if there is one. -/
structure Outline (markers : Markers) where
  blocks : List (Gap markers × Block markers)
  rest : Gap markers
  unclosed : Option (OpenBlock markers)

/-- The lines of an open block. -/
def OpenBlock.lines {markers : Markers} (block : OpenBlock markers) : List (List Char) :=
  block.first :: block.body

/-- The lines of a block. -/
def Block.lines {markers : Markers} (block : Block markers) : List (List Char) :=
  block.toOpenBlock.lines ++ [block.last]

namespace Outline

variable {markers : Markers}

/-- The lines that were taken apart. -/
def lines (outline : Outline markers) : List (List Char) :=
  outline.blocks.flatMap (fun (gap, block) => gap.lines ++ block.lines)
    ++ outline.rest.lines ++ outline.unclosed.toList.flatMap OpenBlock.lines

/-- The lines between the two lines of each block. -/
def bodies (outline : Outline markers) : List (List (List Char)) :=
  outline.blocks.map (·.2.body) ++ outline.unclosed.toList.map (·.body)

end Outline

/-- The first of the fields that the commas of a line part, without the blanks
    around it. -/
def firstField (line : List Char) : List Char :=
  Text.trim ((Text.split ',' line).headD [])

/-- What stands before the first comma is the first of the parted fields. -/
theorem firstField_eq (line : List Char) : firstField line = Word.field line := by
  rw [firstField, List.headD_eq_head?_getD, Text.head_split]
  rfl

/-- The words of lines are their first fields, less those that are blank. -/
theorem chars_filterMap_ofLine (lines : List (List Char)) :
    (lines.filterMap Word.ofLine?).map Word.chars =
      (lines.map firstField).filter fun field => !field.isEmpty := by
  induction lines with
  | nil => rfl
  | cons line lines ih =>
      rw [List.filterMap_cons, List.map_cons, firstField_eq]
      by_cases h : Word.field line = []
      · have hnone : Word.ofLine? line = none := dif_neg (not_not_intro h)
        rw [hnone, h, List.filter_cons_of_neg (by decide)]
        exact ih
      · have hsome : Word.ofLine? line = some ⟨Word.field line, Word.isWord_field h⟩ := dif_pos h
        have hkept : (!(Word.field line).isEmpty) = true := by
          rw [Bool.not_eq_true', List.isEmpty_eq_false_iff]
          exact h
        rw [hsome, List.filter_cons, if_pos hkept, List.map_cons, ih]

namespace Markers

/-- From region `r` on, the scan of the lines finds the words and leads to
    region `r'`. -/
def Yields (markers : Markers) (r : Region) (lines : List (List Char)) (words : List Word)
    (r' : Region) : Prop :=
  ∀ scanner : Scanner, scanner.region = r →
    markers.wordsFrom scanner lines = words ∧ (lines.foldl markers.next scanner).region = r'

/-- Stretches follow one another. -/
theorem yields_append {markers : Markers} {r r' r'' : Region} {xs ys : List (List Char)}
    {vs ws : List Word} (hx : markers.Yields r xs vs r') (hy : markers.Yields r' ys ws r'') :
    markers.Yields r (xs ++ ys) (vs ++ ws) r'' := by
  intro scanner hr
  rcases hx scanner hr with ⟨hvs, hr'⟩
  rcases hy _ hr' with ⟨hws, hr''⟩
  refine ⟨?_, ?_⟩
  · rw [wordsFrom_append, hvs, hws]
  · rw [List.foldl_append]
    exact hr''

theorem yields_nil (markers : Markers) (r : Region) : markers.Yields r [] [] r :=
  fun _ hr => ⟨rfl, hr⟩

/-- What the scan of one line comes to, by the region before it and the markers
    on it. -/
theorem yields_line (markers : Markers) (r : Region) (line : List Char) :
    markers.Yields r [line]
      (if r = .inside ∧ ¬ markers.closing.toList <:+: line then (Word.ofLine? line).toList else [])
      (if markers.opening.toList <:+: line ∨ (r = .inside ∧ ¬ markers.closing.toList <:+: line)
        then .inside else .outside) := by
  intro scanner hr
  have hin := inRange_note markers scanner line
  rw [hr] at hin
  refine ⟨?_, ?_⟩
  · rw [wordsFrom_cons, wordsFrom_nil, List.append_nil, ScannedLine.word?]
    by_cases h : r = .inside ∧ ¬ markers.closing.toList <:+: line
    · rw [if_pos h, if_pos (hin.mpr h)]
      rfl
    · rw [if_neg h, if_neg (fun hc => h (hin.mp hc))]
      rfl
  · have hnext := region_next markers scanner line
    rw [hin] at hnext
    rw [List.foldl_cons, List.foldl_nil]
    by_cases h : markers.opening.toList <:+: line ∨
        (r = .inside ∧ ¬ markers.closing.toList <:+: line)
    · rw [if_pos h]
      exact hnext.mpr h
    · rw [if_neg h]
      -- There are two regions, so the one that is not inside is outside.
      cases hregion : (markers.next scanner line).region with
      | inside => exact absurd (hnext.mp hregion) h
      | outside => rfl

/-- Outside, a line that does not open a range changes nothing. -/
theorem yields_outside (markers : Markers) (line : List Char)
    (hopen : ¬ markers.opening.toList <:+: line) :
    markers.Yields .outside [line] [] .outside := by
  have h := yields_line markers .outside line
  rwa [if_neg (by simp only [reduceCtorEq, false_and, not_false_eq_true]),
    if_neg (by simp only [hopen, reduceCtorEq, false_and, or_self, not_false_eq_true])] at h

/-- Outside, a line that opens a range leads inside, and its own field is not a
    word. -/
theorem yields_opening (markers : Markers) (line : List Char)
    (hopen : markers.opening.toList <:+: line) :
    markers.Yields .outside [line] [] .inside := by
  have h := yields_line markers .outside line
  rwa [if_neg (by simp only [reduceCtorEq, false_and, not_false_eq_true]),
    if_pos (Or.inl hopen)] at h

/-- Inside, a line that does not close the range is asked for its word. -/
theorem yields_plain (markers : Markers) (line : List Char)
    (hclose : ¬ markers.closing.toList <:+: line) :
    markers.Yields .inside [line] (Word.ofLine? line).toList .inside := by
  have h := yields_line markers .inside line
  rwa [if_pos ⟨rfl, hclose⟩, if_pos (Or.inr ⟨rfl, hclose⟩)] at h

/-- Inside, a line that only closes the range leads outside. -/
theorem yields_closing (markers : Markers) (line : List Char)
    (hclose : markers.closing.toList <:+: line) (hopen : ¬ markers.opening.toList <:+: line) :
    markers.Yields .inside [line] [] .outside := by
  have h := yields_line markers .inside line
  rwa [if_neg (fun hc => hc.2 hclose), if_neg (fun hc => hc.elim hopen fun hc => hc.2 hclose)] at h

/-- A gap has no words and leads outside, whatever closing markers are in it. -/
theorem yields_gap (markers : Markers) (gap : Gap markers) :
    markers.Yields .outside gap.lines [] .outside := by
  rcases gap with ⟨lines, hopen⟩
  change markers.Yields .outside lines [] .outside
  induction lines with
  | nil => exact yields_nil markers .outside
  | cons line lines ih =>
      have hline := yields_outside markers line (hopen line List.mem_cons_self)
      exact yields_append hline (ih fun l hl => hopen l (List.mem_cons_of_mem line hl))

/-- Each line of a body is asked for its word. -/
theorem yields_body (markers : Markers) (body : List (List Char))
    (hclose : ∀ line ∈ body, ¬ markers.closing.toList <:+: line) :
    markers.Yields .inside body (body.filterMap Word.ofLine?) .inside := by
  induction body with
  | nil => exact yields_nil markers .inside
  | cons line body ih =>
      have hline := yields_plain markers line (hclose line List.mem_cons_self)
      have hbody := ih fun l hl => hclose l (List.mem_cons_of_mem line hl)
      have hwords : (line :: body).filterMap Word.ofLine?
          = (Word.ofLine? line).toList ++ body.filterMap Word.ofLine? := by
        rw [List.filterMap_cons]
        cases Word.ofLine? line with
        | none => rfl
        | some word => rfl
      rw [hwords]
      exact yields_append hline hbody

theorem yields_openBlock (markers : Markers) (block : OpenBlock markers) :
    markers.Yields .outside block.lines (block.body.filterMap Word.ofLine?) .inside := by
  have hbody := yields_body markers block.body fun line hl => (block.plain line hl).2
  exact yields_append (yields_opening markers block.first block.opens) hbody

/-- A block has the words of its body and leads outside again. -/
theorem yields_block (markers : Markers) (block : Block markers) :
    markers.Yields .outside block.lines (block.body.filterMap Word.ofLine?) .outside := by
  have hopen := yields_openBlock markers block.toOpenBlock
  have hlast := yields_closing markers block.last block.closes block.not_reopens
  have h := yields_append hopen hlast
  rwa [List.append_nil] at h

/-- Blocks with gaps before them have the words of their bodies, one block after
    the other. -/
theorem yields_blocks (markers : Markers) (blocks : List (Gap markers × Block markers)) :
    markers.Yields .outside (blocks.flatMap fun (gap, block) => gap.lines ++ block.lines)
      ((blocks.map (·.2.body)).flatMap (List.filterMap Word.ofLine?)) .outside := by
  induction blocks with
  | nil => exact yields_nil markers .outside
  | cons pair blocks ih =>
      rcases pair with ⟨gap, block⟩
      have hblock := yields_append (yields_gap markers gap) (yields_block markers block)
      exact yields_append hblock ih

/-- An outline has the words of its bodies. Nothing is said of where it leads,
    since a block that is never closed leaves the range open. -/
theorem wordsFrom_outline (markers : Markers) (outline : Outline markers) :
    markers.wordsFrom {} outline.lines =
      outline.bodies.flatMap (List.filterMap Word.ofLine?) := by
  have hhead := yields_append (yields_blocks markers outline.blocks)
    (yields_gap markers outline.rest)
  rw [List.append_nil] at hhead
  -- What is left is the last block, which is entered from outside like any other.
  rw [Outline.lines, Outline.bodies, List.flatMap_append]
  cases outline.unclosed with
  | none =>
      rw [Option.toList_none, List.flatMap_nil, List.map_nil, List.flatMap_nil, List.append_nil,
        List.append_nil]
      exact (hhead {} rfl).1
  | some block =>
      rw [Option.toList_some, List.flatMap_singleton, List.map_singleton, List.flatMap_singleton]
      exact (yields_append hhead (yields_openBlock markers block) {} rfl).1

/-- The words of a header that consists of blocks are the first fields that are
    not blank of the lines between the two lines of each block, block by block
    and line by line. -/
theorem words_of_outline (markers : Markers) (source : String) (outline : Outline markers)
    (hlines : Text.lines source.toList = outline.lines) :
    (markers.words source).map Word.chars =
      outline.bodies.flatMap fun body =>
        (body.map firstField).filter fun field => !field.isEmpty := by
  rw [words_eq, hlines, wordsFrom_outline, List.map_flatMap]
  refine congrArg (List.flatMap · outline.bodies) (funext fun body => ?_)
  exact chars_filterMap_ofLine body

/-- A header with a closing marker in its first gap, both markers on its first
    opening line, and a last block that is never closed. -/
def reopened : Outline {} where
  blocks := [
    ({ lines := ["// no TEOF yet".toList]
       not_opens := by decide +kernel },
     { first := "// Keywords, up to TEOF".toList
       body := ["  IF, 1".toList, "".toList, "  , 7".toList, "  IF".toList]
       last := "  TEOF".toList
       opens := by decide +kernel
       plain := by decide +kernel
       closes := by decide +kernel
       not_reopens := by decide +kernel })]
  rest := { lines := ["\x7d;".toList], not_opens := by decide +kernel }
  unclosed := some
    { first := "Keyword".toList
      body := ["ENDIF,".toList]
      opens := by decide +kernel
      plain := by decide +kernel }

theorem words_of_reopened :
    Text.lines ("// no TEOF yet\n// Keywords, up to TEOF\n  IF, 1\n\n  , 7\n  IF\n  TEOF\n"
      ++ "\x7d;\nKeyword\nENDIF,").toList = reopened.lines ∧
    (({} : Markers).words
      ("// no TEOF yet\n// Keywords, up to TEOF\n  IF, 1\n\n  , 7\n  IF\n  TEOF\n"
        ++ "\x7d;\nKeyword\nENDIF,")).map Word.chars =
      ["IF".toList, "IF".toList, "ENDIF".toList] := by
  have hlines : Text.lines
      ("// no TEOF yet\n// Keywords, up to TEOF\n  IF, 1\n\n  , 7\n  IF\n  TEOF\n"
        ++ "\x7d;\nKeyword\nENDIF,").toList = reopened.lines := by decide +kernel
  exact ⟨hlines, (words_of_outline {} _ reopened hlines).trans (by decide +kernel)⟩

end Markers

end KeywordTable
