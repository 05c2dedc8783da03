import KeywordTable.Generate
import KeywordTable.Proofs.Words
import Mathlib.Data.List.DropRight

/-!
# Line Endings

A header makes the same table whether its lines end in a line feed or in a
carriage return and a line feed, and also if some end in the one and some in the
other. Nor does it matter whether the last line is ended.

Taking the lines of a text drops one carriage return before a line feed and no
more. A second one stays in its line, and so does one at the end of a text that
no line feed follows. These do no harm: a carriage return is a blank, so none is
left at the end of a word, and markers without carriage returns are found in a
line with some at its end exactly if they are found in the line without.

So the lines need not be compared as they are, but only up to carriage returns at
their ends. `dropReturns` takes all of these off, and `words_eq_pieces` says that
nothing is lost: the words can be taken from the pieces between the line feeds
instead of the lines. Cut and stripped like this, a text is the same before and
after carriage returns are put in (`split_addReturns`), and a line feed at its
end only adds an empty piece.

## Main definitions

* `Text.addReturns`: A text with carriage returns put before some line feeds.
* `Text.dropReturns`: A line without carriage returns at its end.

## Theorems

* `Text.dropReturns_append`: Carriage returns at the end are dropped.
* `Text.occursIn_dropReturns`: Dropping them hides no marker and makes none.
* `Text.split_addReturns`: Nothing but them is put between the line feeds.
* `Text.split_eq_or_lines`: Lines are pieces, but for carriage returns and an
  empty piece after the last.
* `Markers.wordsFrom_dropReturns`: Carriage returns at the end of lines do not
  matter.
* `Markers.words_eq_pieces`: The words of a text by the pieces between its line
  feeds.
* `Settings.render_line_endings`: Line endings do not matter.
-/

namespace KeywordTable

namespace Text

/-- What a character is written as: a line feed at a chosen place gets a carriage
    return before it. -/
def withReturn (chosen : Nat → Bool) : Char × Nat → List Char
  | (c, i) => if c = '\n' ∧ chosen i = true then ['\r', '\n'] else [c]

/-- The text with a carriage return put before each line feed that stands at a
    chosen place. -/
def addReturns (chosen : Nat → Bool) (cs : List Char) : List Char :=
  cs.zipIdx.flatMap (withReturn chosen)

/-- The line without carriage returns at its end. -/
def dropReturns (cs : List Char) : List Char :=
  cs.rdropWhile (· == '\r')

/-- Nothing but carriage returns is dropped. -/
theorem exists_returns (cs : List Char) :
    ∃ tail, cs = dropReturns cs ++ tail ∧ ∀ c ∈ tail, c = '\r' :=
  ⟨cs.rtakeWhile (· == '\r'), List.rdropWhile_append_rtakeWhile.symm,
    fun _ hc => beq_iff_eq.mp (List.mem_rtakeWhile_imp (p := (· == '\r')) hc)⟩

/-- All carriage returns at the end are dropped. -/
theorem dropReturns_append (cs : List Char) {tail : List Char} (htail : ∀ c ∈ tail, c = '\r') :
    dropReturns (cs ++ tail) = dropReturns cs := by
  have hdrop : ∀ c ∈ tail.reverse, (c == '\r') = true :=
    fun c hc => beq_iff_eq.mpr (htail c (List.mem_reverse.mp hc))
  rw [dropReturns, List.rdropWhile, List.reverse_append, List.dropWhile_append_of_pos hdrop]
  rfl

/-- Dropping one first makes no difference. -/
theorem dropReturns_dropReturn (cs : List Char) :
    dropReturns (dropReturn cs) = dropReturns cs := by
  unfold dropReturn
  split
  · next hlast =>
      obtain ⟨front, rfl⟩ := List.getLast?_eq_some_iff.mp hlast
      rw [List.dropLast_concat, dropReturns_append front fun c hc => List.mem_singleton.mp hc]
  · rfl

/-- Nor does dropping them before a character is put in front. -/
theorem dropReturns_cons (c : Char) (cs : List Char) :
    dropReturns (c :: cs) = dropReturns (c :: dropReturns cs) := by
  obtain ⟨tail, hcs, htail⟩ := exists_returns cs
  have hcons : c :: cs = (c :: dropReturns cs) ++ tail := by
    rw [List.cons_append, ← hcs]
  rw [hcons, dropReturns_append _ htail]

/-- A character in front of pieces that are the same but for carriage returns
    leaves them so. -/
theorem map_dropReturns_modifyHead (c : Char) {ps qs : List (List Char)}
    (h : ps.map dropReturns = qs.map dropReturns) :
    (ps.modifyHead (List.cons c)).map dropReturns =
      (qs.modifyHead (List.cons c)).map dropReturns := by
  cases ps with
  | nil =>
      rw [List.map_nil, eq_comm, List.map_eq_nil_iff] at h
      rw [h]
  | cons p ps =>
      obtain ⟨q, qs', rfl, hq, hqs⟩ := List.map_eq_cons_iff.mp h.symm
      rw [List.modifyHead_cons, List.modifyHead_cons, List.map_cons, List.map_cons,
        dropReturns_cons c p, dropReturns_cons c q, hq, hqs]

/-- Nothing but carriage returns is put between the line feeds. The induction is
    on the text, so the places are counted from any number on. -/
theorem split_withReturn (chosen : Nat → Bool) (cs : List Char) (k : Nat) :
    (split '\n' ((cs.zipIdx k).flatMap (withReturn chosen))).map dropReturns =
      (split '\n' cs).map dropReturns := by
  induction cs generalizing k with
  | nil => rfl
  | cons c cs ih =>
      rw [List.zipIdx_cons, List.flatMap_cons, split_cons '\n' c cs]
      by_cases hchosen : c = '\n' ∧ chosen k = true
      -- The carriage return joins what stands before it, and here that is nothing.
      · rw [withReturn, if_pos hchosen, if_pos hchosen.1, List.map_cons, ← ih (k + 1)]
        rfl
      · rw [withReturn, if_neg hchosen, List.singleton_append, split_cons]
        by_cases hc : c = '\n'
        · rw [if_pos hc, if_pos hc, List.map_cons, List.map_cons, ih]
        · rw [if_neg hc, if_neg hc]
          exact map_dropReturns_modifyHead c (ih (k + 1))

theorem split_addReturns (chosen : Nat → Bool) (cs : List Char) :
    (split '\n' (addReturns chosen cs)).map dropReturns = (split '\n' cs).map dropReturns :=
  split_withReturn chosen cs 0

/-- A text without carriage returns is found in a line with some at its end
    exactly if it is found in the line without. -/
theorem infix_append_returns {needle : List Char} (hneedle : '\r' ∉ needle) (cs : List Char)
    {tail : List Char} (htail : ∀ c ∈ tail, c = '\r') :
    needle <:+: cs ++ tail ↔ needle <:+: cs := by
  induction tail generalizing cs with
  | nil => rw [List.append_nil]
  | cons c tail ih =>
      have hc : c = '\r' := htail c List.mem_cons_self
      rw [List.append_cons, ih _ fun d hd => htail d (List.mem_cons_of_mem c hd),
        List.infix_concat_iff, or_iff_right_iff_imp, List.suffix_concat_iff, hc]
      rintro (rfl | ⟨front, rfl, -⟩)
      · exact List.nil_infix
      -- A match that reaches the carriage return has it in it.
      · exact absurd (List.mem_append_right front List.mem_cons_self) hneedle

theorem occursIn_dropReturns {needle : List Char} (hneedle : '\r' ∉ needle) (cs : List Char) :
    occursIn needle (dropReturns cs) = occursIn needle cs := by
  obtain ⟨tail, hcs, htail⟩ := exists_returns cs
  rw [Bool.eq_iff_iff, occursIn_iff, occursIn_iff]
  nth_rewrite 2 [hcs]
  exact (infix_append_returns hneedle _ htail).symm

/-- Between its line feeds a text has its lines, if carriage returns at their end
    do not count. After a last line feed there is an empty piece more. -/
theorem split_eq_or_lines (cs : List Char) :
    (split '\n' cs).map dropReturns = (lines cs).map dropReturns ∨
      (split '\n' cs).map dropReturns = (lines cs).map dropReturns ++ [[]] := by
  have hne := split_ne_nil '\n' cs
  have hended : ((split '\n' cs).dropLast.map dropReturn).map dropReturns =
      (split '\n' cs).dropLast.map dropReturns := by
    rw [List.map_map]
    exact List.map_congr_left fun p _ => dropReturns_dropReturn p
  have hsplit : (split '\n' cs).map dropReturns =
      (split '\n' cs).dropLast.map dropReturns ++ [dropReturns ((split '\n' cs).getLast hne)] := by
    nth_rewrite 1 [← List.dropLast_concat_getLast hne]
    rw [List.map_append, List.map_singleton]
  rw [lines, List.map_append, hended, hsplit, List.getLast?_eq_some_getLast hne,
    Option.toList_some]
  -- The last piece is a line unless it is empty.
  cases hlast : (split '\n' cs).getLast hne with
  | nil =>
      rw [List.filter_cons_of_neg (by decide), List.filter_nil, List.map_nil, List.append_nil]
      exact Or.inr rfl
  | cons c p =>
      rw [List.filter_cons_of_pos rfl, List.filter_nil, List.map_singleton]
      exact Or.inl rfl

end Text

/-- A carriage return is a blank, so those at the end of a line do not change its
    word. -/
theorem Word.ofLine_dropReturns (line : List Char) :
    Word.ofLine? (Text.dropReturns line) = Word.ofLine? line := by
  obtain ⟨tail, hline, htail⟩ := Text.exists_returns line
  have hblank : Text.AllBlank tail := fun c hc => htail c hc ▸ by decide
  nth_rewrite 2 [hline]
  exact (Word.ofLine_append_blanks _ hblank).symm

namespace Markers

/-- An empty line after the last does not have a word. -/
theorem wordsFrom_append_empty (markers : Markers) (scanner : Scanner)
    (lines : List (List Char)) :
    markers.wordsFrom scanner (lines ++ [[]]) = markers.wordsFrom scanner lines := by
  have hnone : ∀ s : Scanner, (markers.note s []).word? = none := fun s => by
    unfold ScannedLine.word?
    exact ite_self none
  rw [wordsFrom_append, wordsFrom_cons, hnone, wordsFrom_nil, Option.toList_none,
    List.append_nil, List.append_nil]

section NoReturns

variable {markers : Markers} (hopening : '\r' ∉ markers.opening.toList)
  (hclosing : '\r' ∉ markers.closing.toList)

include hclosing in
/-- Carriage returns at the end of a line do not hide the closing marker. -/
theorem closesAt_dropReturns (line : List Char) :
    markers.closesAt (Text.dropReturns line) = markers.closesAt line :=
  Text.occursIn_dropReturns hclosing line

include hclosing in
/-- They do not lead a line out of the range, or into it. -/
theorem inRange_note_dropReturns (scanner : Scanner) (line : List Char) :
    (markers.note scanner (Text.dropReturns line)).inRange =
      (markers.note scanner line).inRange := by
  unfold ScannedLine.inRange ScannedLine.region note
  rw [closesAt_dropReturns hclosing]

include hopening hclosing in
/-- Nor do they change the region that a line leads to. -/
theorem next_dropReturns (scanner : Scanner) (line : List Char) :
    markers.next scanner (Text.dropReturns line) = markers.next scanner line := by
  have hopens : markers.opensAt (Text.dropReturns line) = markers.opensAt line :=
    Text.occursIn_dropReturns hopening line
  unfold next ScannedLine.after ScannedLine.region note
  rw [hopens, closesAt_dropReturns hclosing]

include hopening hclosing in
/-- Carriage returns at the end of lines do not matter to the words, if the
    markers have none. -/
theorem wordsFrom_dropReturns (scanner : Scanner) (lines : List (List Char)) :
    markers.wordsFrom scanner (lines.map Text.dropReturns) = markers.wordsFrom scanner lines := by
  induction lines generalizing scanner with
  | nil => rfl
  | cons line lines ih =>
      have hword : (markers.note scanner (Text.dropReturns line)).word? =
          (markers.note scanner line).word? := by
        unfold ScannedLine.word?
        rw [inRange_note_dropReturns hclosing]
        change (if _ then Word.ofLine? (Text.dropReturns line) else none) = _
        rw [Word.ofLine_dropReturns]
        rfl
      rw [List.map_cons, wordsFrom_cons, wordsFrom_cons, hword,
        next_dropReturns hopening hclosing, ih]

include hopening hclosing in
/-- The words of a text can be taken from the pieces between its line feeds. -/
theorem words_eq_pieces (source : String) :
    markers.words source =
      markers.wordsFrom {} ((Text.split '\n' source.toList).map Text.dropReturns) := by
  rw [words_eq, ← wordsFrom_dropReturns hopening hclosing]
  rcases Text.split_eq_or_lines source.toList with h | h
  · rw [h]
  · rw [h, wordsFrom_append_empty]

include hopening hclosing in
theorem words_addReturns (chosen : Nat → Bool) (source : String) :
    markers.words (.ofList (Text.addReturns chosen source.toList)) = markers.words source := by
  rw [words_eq_pieces hopening hclosing, words_eq_pieces hopening hclosing, String.toList_ofList,
    Text.split_addReturns]

include hopening hclosing in
/-- A line feed at the end of a text either ends its last line or adds an empty
    one. -/
theorem words_append_newline (source : String) :
    markers.words (source ++ "\n") = markers.words source := by
  have hend : (source ++ "\n").toList = source.toList ++ '\n' :: [] := String.toList_append
  have hempty : (Text.split '\n' []).map Text.dropReturns = [[]] := rfl
  rw [words_eq_pieces hopening hclosing, words_eq_pieces hopening hclosing, hend,
    Text.split_append, List.map_append, hempty, wordsFrom_append_empty]

end NoReturns

end Markers

/-- If the markers have no carriage returns, line endings do not matter. A header
    has the same words and makes the same table if a carriage return is put
    before some of its line feeds, before all or before none, and also if it is
    ended by one line feed more. -/
theorem Settings.render_line_endings (settings : Settings) (source : String)
    (hopening : '\r' ∉ settings.markers.opening.toList)
    (hclosing : '\r' ∉ settings.markers.closing.toList) (chosen : Nat → Bool) :
    settings.render (.ofList (Text.addReturns chosen source.toList)) = settings.render source ∧
    settings.render (.ofList (Text.addReturns chosen source.toList) ++ "\n") =
      settings.render source ∧
    settings.render (source ++ "\n") = settings.render source := by
  have hreturns := Markers.words_addReturns hopening hclosing chosen source
  have hnewline := Markers.words_append_newline hopening hclosing
  -- Only the words of a header go into its table.
  have hrender : ∀ text : String, settings.markers.words text = settings.markers.words source →
      settings.render text = settings.render source := by
    intro text hwords
    unfold render
    rw [hwords]
  exact ⟨hrender _ hreturns, hrender _ ((hnewline _).trans hreturns), hrender _ (hnewline source)⟩

/-- Carriage returns are put before two of the line feeds, one of which had one
    already, and the last line has one without a line feed. -/
theorem Settings.render_line_endings_mixed :
    let settings : Settings := { input := .ofText "token.h", output := .ofText "table.h" }
    let source := "Keyword\r\nIF,\nDO\nTEOF\nKeyword\nAS\r"
    let mixed := "Keyword\r\r\nIF,\nDO\r\nTEOF\nKeyword\nAS\r"
    '\r' ∉ settings.markers.opening.toList ∧ '\r' ∉ settings.markers.closing.toList ∧
    settings.render mixed = settings.render source ∧
    settings.render (mixed ++ "\n") = settings.render source ∧
    settings.render (source ++ "\n") = settings.render source := by
  intro settings source mixed
  have hopening : '\r' ∉ settings.markers.opening.toList := by decide
  have hclosing : '\r' ∉ settings.markers.closing.toList := by decide
  have hmixed : String.ofList (Text.addReturns (fun i => i == 8 || i == 15) source.toList) =
      mixed := by decide +kernel
  have h := render_line_endings settings source hopening hclosing fun i => i == 8 || i == 15
  rw [hmixed] at h
  exact ⟨hopening, hclosing, h⟩

-- With a carriage return in a marker line endings do matter.
example :
    (({ closing := "\r" } : Markers).words "Keyword\nIF\r\nDO").map Word.text = ["IF", "DO"] ∧
    (({ closing := "\r" } : Markers).words "Keyword\nIF\r\r\nDO").map Word.text = [] := by
  decide +kernel

end KeywordTable
