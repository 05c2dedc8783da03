import KeywordTable.Proofs.Scan
import Mathlib.Data.List.Forall2
import Mathlib.Data.List.TakeWhile

/-!
# Words and Where They Stand

What a line has to look like for a word to be taken from it, and which lines of
a text the words are taken from.

A word is computed in two cuts, at the first comma and then at the blanks on
both sides. Both can be undone: what was cut off is blanks, and after them
nothing or a comma with anything behind it. `HasField` is that shape of a line,
stated without cutting. Every line has its field in this shape
(`hasField_field`), and it has no other (`field_eq_of_hasField`): a text without
commas that has no blank at its ends is found again wherever it is put between
blanks. Neither blanks inside the text nor commas behind the first one matter.

For a whole text, `wordAt` is the word of one line, by the lines before it. The
words are those of the lines in order, so they stand at increasing indices. A
closing marker inside a word would be inside its line as well, and such a line
is not in the range.

## Main definitions

* `Text.AllBlank`: The text consists of blanks.
* `EndsField`: What can stand after a field.
* `HasField`: The line has the text as its first field.
* `Markers.wordAt`: The word of one line of a text.

## Theorems

* `Text.trim_between_blanks`: Trimming takes off the blanks around a text.
* `Text.exists_blanks_around`: It takes off nothing else.
* `Word.hasField_field`: What is cut out of a line is its first field.
* `Word.field_eq_of_hasField`: A line has one first field.
* `Word.ofLine_append_blanks`: Blanks at the end of a line do not matter.
* `Word.ofLine_chars`: A word is the word of the line that it makes.
* `Word.ofLine_iff_field`: The lines that a word is taken from.
* `Markers.words_eq_filterMap`: The words of a text line by line.
* `Markers.wordAt_eq_some_iff`: When a line of a text has a word.
* `Markers.not_closing_of_wordAt`: A word does not contain the closing marker.
* `Markers.words_of_closing_empty`: With an empty closing marker there are none.
* `Markers.words_stand_in_lines`: Where the words of a text stand, and what they
  can be.
-/

namespace KeywordTable

namespace Text

/-- The text consists of blanks. -/
def AllBlank (cs : List Char) : Prop :=
  ∀ c ∈ cs, isBlank c = true

theorem allBlank_nil : AllBlank [] :=
  fun _ hc => absurd hc List.not_mem_nil

theorem AllBlank.append {cs ds : List Char} (hcs : AllBlank cs) (hds : AllBlank ds) :
    AllBlank (cs ++ ds) :=
  fun c hc => (List.mem_append.mp hc).elim (hcs c) (hds c)

/-- Blanks are dropped up to a character that is none. -/
theorem dropWhile_blanks {left cs : List Char} (hleft : AllBlank left)
    (hhead : ∀ c ∈ cs.head?, isBlank c = false) : (left ++ cs).dropWhile isBlank = cs := by
  rw [List.dropWhile_append_of_pos hleft]
  cases cs with
  | nil => rfl
  | cons c cs =>
      have hc : isBlank c = false := hhead c rfl
      rw [List.dropWhile_cons_of_neg (by rw [hc]; exact Bool.false_ne_true)]

/-- Blanks at the end are dropped down to a character that is none. -/
theorem trimEnd_blanks {cs right : List Char} (hright : AllBlank right)
    (hlast : ∀ c ∈ cs.getLast?, isBlank c = false) : trimEnd (cs ++ right) = cs := by
  -- Read backwards, the end of a text is its start.
  have hright' : AllBlank right.reverse := fun c hc => hright c (List.mem_reverse.mp hc)
  rw [trimEnd, List.reverse_append,
    dropWhile_blanks hright' (by rwa [List.head?_reverse]), List.reverse_reverse]

/-- Trimming takes off the blanks around a text that has none at its ends. -/
theorem trim_between_blanks {left cs right : List Char} (hleft : AllBlank left)
    (hright : AllBlank right) (hhead : ∀ c ∈ cs.head?, isBlank c = false)
    (hlast : ∀ c ∈ cs.getLast?, isBlank c = false) : trim (left ++ cs ++ right) = cs := by
  cases cs with
  | nil =>
      rw [List.append_nil, trim, List.dropWhile_eq_nil_iff.mpr (hleft.append hright)]
      rfl
  | cons c cs =>
      -- The first character stays where it is when blanks are put behind the text.
      have hhead' : ∀ d ∈ (c :: cs ++ right).head?, isBlank d = false := hhead
      rw [trim, List.append_assoc, dropWhile_blanks hleft hhead', trimEnd_blanks hright hlast]

/-- Trimming takes off nothing but blanks. -/
theorem exists_blanks_around (cs : List Char) :
    ∃ left right, cs = left ++ trim cs ++ right ∧ AllBlank left ∧ AllBlank right := by
  obtain ⟨right, hright, hblank⟩ := trimEnd_append (cs.dropWhile isBlank)
  refine ⟨cs.takeWhile isBlank, right, ?_, ?_, hblank⟩
  · rw [trim, List.append_assoc, ← hright, List.takeWhile_append_dropWhile]
  · exact List.all_eq_true.mp List.all_takeWhile

end Text

/-- What can stand after the first field of a line: nothing, or a comma and
    anything behind it. -/
def EndsField (rest : List Char) : Prop :=
  rest = [] ∨ rest.head? = some ','

/-- The line has the text as its first field, perhaps with blanks around it. -/
def HasField (line cs : List Char) : Prop :=
  ∃ left right rest, line = left ++ cs ++ right ++ rest ∧
    Text.AllBlank left ∧ Text.AllBlank right ∧ EndsField rest

/-- A first field is a part of its line. -/
theorem HasField.isInfix {line cs : List Char} (h : HasField line cs) : cs <:+: line := by
  obtain ⟨left, right, rest, rfl, -, -, -⟩ := h
  exact ⟨left, right ++ rest, (List.append_assoc _ _ _).symm⟩

/-- Blanks at the end of a line do not change its first field. They are part of
    the blanks around it, or stand behind a comma. -/
theorem HasField.append_blanks {line cs tail : List Char} (h : HasField line cs)
    (htail : Text.AllBlank tail) : HasField (line ++ tail) cs := by
  obtain ⟨left, right, rest, rfl, hleft, hright, rfl | hrest⟩ := h
  · refine ⟨left, right ++ tail, [], ?_, hleft, hright.append htail, Or.inl rfl⟩
    simp only [List.append_assoc, List.append_nil]
  · refine ⟨left, right, rest ++ tail, ?_, hleft, hright, Or.inr ?_⟩
    · simp only [List.append_assoc]
    · rw [List.head?_append, hrest, Option.some_or]

namespace Word

/-- A comma is no blank. -/
theorem comma_not_mem_of_allBlank {cs : List Char} (h : Text.AllBlank cs) : ',' ∉ cs :=
  fun hmem => absurd (h ',' hmem) (by decide)

/-- The first cut of a line is at the end of the text before its first comma. -/
theorem takeWhile_ne_comma {cs rest : List Char} (hcomma : ',' ∉ cs) (hrest : EndsField rest) :
    (cs ++ rest).takeWhile (· != ',') = cs := by
  have hbefore : ∀ c ∈ cs, (c != ',') = true :=
    fun c hc => bne_iff_ne.mpr fun heq => hcomma (heq ▸ hc)
  have hafter : rest.takeWhile (· != ',') = [] := by
    rcases hrest with rfl | hrest
    · rfl
    · obtain ⟨tail, rfl⟩ := List.head?_eq_some_iff.mp hrest
      exact List.takeWhile_cons_of_neg (by decide)
  rw [List.takeWhile_append_of_pos hbefore, hafter, List.append_nil]

/-- What the first cut leaves over begins with the comma it was made at. -/
theorem endsField_dropWhile (line : List Char) : EndsField (line.dropWhile (· != ',')) := by
  have hnot := List.head?_dropWhile_not (· != ',') line
  cases hrest : line.dropWhile (· != ',') with
  | nil => exact Or.inl rfl
  | cons c rest =>
      rw [hrest] at hnot
      have hc : c = ',' := bne_eq_false_iff_eq.mp hnot
      exact Or.inr (congrArg some hc)

/-- What is cut out of a line is its first field. -/
theorem hasField_field (line : List Char) : HasField line (field line) := by
  obtain ⟨left, right, hfield, hleft, hright⟩ :=
    Text.exists_blanks_around (line.takeWhile (· != ','))
  refine ⟨left, right, line.dropWhile (· != ','), ?_, hleft, hright, endsField_dropWhile line⟩
  change line = left ++ Text.trim (line.takeWhile (· != ',')) ++ right ++ _
  rw [← hfield, List.takeWhile_append_dropWhile]

/-- A line has no other first field without commas and without blanks at its
    ends. -/
theorem field_eq_of_hasField {line cs : List Char} (h : HasField line cs) (hcomma : ',' ∉ cs)
    (hhead : ∀ c ∈ cs.head?, Text.isBlank c = false)
    (hlast : ∀ c ∈ cs.getLast?, Text.isBlank c = false) : field line = cs := by
  obtain ⟨left, right, rest, rfl, hleft, hright, hrest⟩ := h
  have hnone : ',' ∉ left ++ cs ++ right := by
    simp only [List.mem_append, comma_not_mem_of_allBlank hleft, hcomma,
      comma_not_mem_of_allBlank hright, or_self, not_false_eq_true]
  rw [field, takeWhile_ne_comma hnone hrest, Text.trim_between_blanks hleft hright hhead hlast]

/-- A word is taken from a line if it is the first field. -/
theorem ofLine_eq_some_iff (line : List Char) (word : Word) :
    ofLine? line = some word ↔ field line = word.chars := by
  unfold ofLine?
  constructor
  · intro h
    split at h
    · cases h
      rfl
    · exact absurd h (by simp only [reduceCtorEq, not_false_eq_true])
  · intro h
    have hne : field line ≠ [] := by
      rw [h]
      exact word.isWord.nonempty
    rw [dif_pos hne]
    obtain ⟨cs, hcs⟩ := word
    change field line = cs at h
    subst h
    rfl

/-- A word between blanks, with nothing or a comma after them, is the word of
    the line. -/
theorem ofLine_of_hasField {line : List Char} {word : Word} (h : HasField line word.chars) :
    ofLine? line = some word :=
  (ofLine_eq_some_iff line word).mpr (field_eq_of_hasField h word.isWord.no_comma
    word.isWord.head_not_blank word.isWord.last_not_blank)

/-- The word of a line is its first field. -/
theorem hasField_of_ofLine {line : List Char} {word : Word} (h : ofLine? line = some word) :
    HasField line word.chars :=
  (ofLine_eq_some_iff line word).mp h ▸ hasField_field line

/-- No word is taken from a line if the first field is blank. -/
theorem ofLine_eq_none_iff (line : List Char) : ofLine? line = none ↔ HasField line [] := by
  have hnone : ∀ c : Char, c ∈ (none : Option Char) → Text.isBlank c = false :=
    fun c hc => absurd hc (Option.not_mem_none c)
  unfold ofLine?
  by_cases h : field line = []
  · rw [dif_neg (not_not_intro h)]
    exact iff_of_true rfl (h ▸ hasField_field line)
  · rw [dif_pos h]
    refine iff_of_false (by simp only [reduceCtorEq, not_false_eq_true]) fun hfield => h ?_
    exact field_eq_of_hasField hfield List.not_mem_nil hnone hnone

/-- Blanks at the end of a line do not change its word. -/
theorem ofLine_append_blanks (line : List Char) {tail : List Char} (htail : Text.AllBlank tail) :
    ofLine? (line ++ tail) = ofLine? line := by
  cases hword : ofLine? line with
  | none => exact (ofLine_eq_none_iff _).mpr (((ofLine_eq_none_iff _).mp hword).append_blanks htail)
  | some word => exact ofLine_of_hasField ((hasField_of_ofLine hword).append_blanks htail)

/-- A word is the word of the line that it makes. -/
theorem ofLine_chars (word : Word) : ofLine? word.chars = some word := by
  refine ofLine_of_hasField ⟨[], [], [], ?_, Text.allBlank_nil, Text.allBlank_nil, Or.inl rfl⟩
  rw [List.nil_append, List.append_nil, List.append_nil]

/-- A word is taken from exactly those lines that have it between blanks, with
    nothing or a comma after them, and none from exactly those lines that have
    only blanks there. The word of a word is that word. -/
theorem ofLine_iff_field (line : List Char) :
    (∀ cs : List Char, (ofLine? line).map Word.chars = some cs ↔
      IsWord cs ∧ HasField line cs) ∧
    (ofLine? line = none ↔
      ∃ left rest, line = left ++ rest ∧ Text.AllBlank left ∧ EndsField rest) ∧
    ∀ word : Word, ofLine? word.chars = some word := by
  refine ⟨fun cs => ⟨?_, ?_⟩, ⟨?_, ?_⟩, ofLine_chars⟩
  · intro h
    obtain ⟨word, hword, rfl⟩ := Option.map_eq_some_iff.mp h
    exact ⟨word.isWord, hasField_of_ofLine hword⟩
  · rintro ⟨hword, hfield⟩
    exact Option.map_eq_some_iff.mpr ⟨⟨cs, hword⟩, ofLine_of_hasField hfield, rfl⟩
  · rw [ofLine_eq_none_iff]
    rintro ⟨left, right, rest, hline, hleft, hright, hrest⟩
    rw [List.append_nil] at hline
    -- With nothing between them the blanks on the two sides are one run.
    exact ⟨left ++ right, rest, hline, hleft.append hright, hrest⟩
  · rw [ofLine_eq_none_iff]
    rintro ⟨left, rest, hline, hleft, hrest⟩
    refine ⟨left, [], rest, ?_, hleft, Text.allBlank_nil, hrest⟩
    rw [List.append_nil, List.append_nil, hline]

-- Blanks inside stay, and so does a zero-width space at an end, which is no blank.
example : (ofLine? "  WHILE  LOOP\u200B\t ,, 1".toList).map Word.chars =
    some "WHILE  LOOP\u200B".toList := by decide +kernel

end Word

/-- What a partial function gives on a list, paired with where it gives it. -/
theorem forall₂_filterMap {α β : Type} (f : α → Option β) (xs : List α) :
    List.Forall₂ (fun a b => f a = some b) (xs.filter fun a => (f a).isSome) (xs.filterMap f) := by
  -- Brought to one type, the two lists are the answers of the function that are some.
  rw [← List.forall₂_map_left_iff (R := fun b' b => b' = some b) (f := f),
    ← List.forall₂_map_right_iff (R := fun a b => a = b) (f := some), List.forall₂_eq_eq_eq,
    List.map_filterMap_some_eq_filter_map_isSome, List.filter_map]
  rfl

namespace Markers

/-- The word of line `i` of some lines, by what the lines before it have led
    to. -/
def wordAt (markers : Markers) (lines : List (List Char)) (i : Fin lines.length) : Option Word :=
  (markers.note (markers.reached lines i.val) (lines.get i)).word?

/-- A scan notes the lines one by one. -/
theorem scan_eq_map (markers : Markers) (source : String) :
    markers.scan source = (List.finRange (Text.lines source.toList).length).map fun i =>
      markers.note (markers.reached (Text.lines source.toList) i.val)
        ((Text.lines source.toList).get i) := by
  refine List.ext_getElem? fun i => ?_
  rw [scan, getElem_scanLines, ← reached_eq, List.getElem?_map]
  -- Both lists are as long as there are lines, and beyond that both have nothing.
  by_cases hi : i < (Text.lines source.toList).length
  · rw [List.getElem?_eq_getElem hi, List.getElem?_eq_getElem (by rwa [List.length_finRange]),
      List.getElem_finRange]
    rfl
  · rw [List.getElem?_eq_none (Nat.le_of_not_lt hi),
      List.getElem?_eq_none (by rw [List.length_finRange]; exact Nat.le_of_not_lt hi)]
    rfl

/-- The words of a text are those of its lines. -/
theorem words_eq_filterMap (markers : Markers) (source : String) :
    markers.words source = (List.finRange (Text.lines source.toList).length).filterMap
      (markers.wordAt (Text.lines source.toList)) := by
  rw [words, scan_eq_map, List.filterMap_map]
  rfl

/-- A line has a word if it lies inside the range and its first field is one. -/
theorem wordAt_eq_some_iff (markers : Markers) (lines : List (List Char)) (i : Fin lines.length)
    (word : Word) :
    markers.wordAt lines i = some word ↔
      (∃ j, j < i.val ∧ markers.StaysOpen lines j i.val) ∧
        Word.ofLine? (lines.get i) = some word := by
  have hin : (markers.note (markers.reached lines i.val) (lines.get i)).inRange = true ↔
      ∃ j, j < i.val ∧ markers.StaysOpen lines j i.val :=
    inRange_reached markers lines i.val i.isLt
  unfold wordAt ScannedLine.word?
  constructor
  · intro h
    split at h
    · exact ⟨hin.mp ‹_›, h⟩
    · exact absurd h (by simp only [reduceCtorEq, not_false_eq_true])
  · rintro ⟨hopen, hword⟩
    rw [if_pos (hin.mpr hopen)]
    exact hword

/-- A word does not contain the closing marker, since its line does not. -/
theorem not_closing_of_wordAt {markers : Markers} {lines : List (List Char)}
    {i : Fin lines.length} {word : Word} (h : markers.wordAt lines i = some word) :
    ¬ markers.closing.toList <:+: word.chars := by
  obtain ⟨⟨j, hj, hopen⟩, hword⟩ := (wordAt_eq_some_iff markers lines i word).mp h
  intro hclose
  -- The range has stayed open up to this line, which then would have closed it.
  refine hopen.2 i.val hj (Nat.le_refl _) ((lineContains_iff lines i.val _ i.isLt).mpr ?_)
  exact hclose.trans (Word.hasField_of_ofLine hword).isInfix

/-- Every line closes a range if the closing marker is empty, so there are no
    words. -/
theorem words_of_closing_empty (opening : String) (source : String) :
    ({ opening, closing := "" } : Markers).words source = [] := by
  rw [words_eq_filterMap, List.filterMap_eq_nil_iff]
  intro i _
  cases hword : ({ opening, closing := "" } : Markers).wordAt (Text.lines source.toList) i with
  | none => rfl
  | some word => exact absurd List.nil_infix (not_closing_of_wordAt hword)

/-- The words of a text stand in lines with increasing indices. Each is a part of
    its line and the first field of it, is a word, and contains neither a line
    feed nor the closing marker. The lines are exactly those inside the range
    that have a word as their first field. If the closing marker is empty there
    are no words. -/
theorem words_stand_in_lines (markers : Markers) (source : String) :
    (∃ indices : List (Fin (Text.lines source.toList).length),
      indices.Pairwise (fun i j => i.val < j.val) ∧
      List.Forall₂ (fun i cs =>
          cs <:+: (Text.lines source.toList).get i ∧
          HasField ((Text.lines source.toList).get i) cs ∧
          IsWord cs ∧ '\n' ∉ cs ∧ ¬ markers.closing.toList <:+: cs)
        indices ((markers.words source).map Word.chars) ∧
      ∀ i, i ∈ indices ↔
        (∃ j, j < i.val ∧ markers.StaysOpen (Text.lines source.toList) j i.val) ∧
          ∃ cs, IsWord cs ∧ HasField ((Text.lines source.toList).get i) cs) ∧
    ({ markers with closing := "" } : Markers).words source = [] := by
  refine ⟨⟨(List.finRange _).filter fun i => (markers.wordAt _ i).isSome, ?_, ?_, fun i => ?_⟩,
    words_of_closing_empty markers.opening source⟩
  · exact (List.pairwise_lt_finRange _).filter _
  · rw [words_eq_filterMap, List.forall₂_map_right_iff]
    refine List.Forall₂.imp (fun i word hword => ?_) (forall₂_filterMap (markers.wordAt _) _)
    -- A word is a part of its line, and a line has no line feed.
    have hfield := Word.hasField_of_ofLine ((wordAt_eq_some_iff markers _ i word).mp hword).2
    have hline := Text.not_mem_of_mem_lines _ _ (List.getElem_mem i.isLt)
    exact ⟨hfield.isInfix, hfield, word.isWord, fun hmem => hline (hfield.isInfix.subset hmem),
      not_closing_of_wordAt hword⟩
  · rw [List.mem_filter, and_iff_right (List.mem_finRange i), Option.isSome_iff_exists]
    constructor
    · rintro ⟨word, hword⟩
      obtain ⟨hopen, hline⟩ := (wordAt_eq_some_iff markers _ i word).mp hword
      exact ⟨hopen, word.chars, word.isWord, Word.hasField_of_ofLine hline⟩
    · rintro ⟨hopen, cs, hcs, hfield⟩
      exact ⟨⟨cs, hcs⟩, (wordAt_eq_some_iff markers _ i _).mpr
        ⟨hopen, Word.ofLine_of_hasField hfield⟩⟩

end Markers

end KeywordTable
