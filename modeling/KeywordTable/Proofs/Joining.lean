import KeywordTable.Proofs.Edits

/-!
# Joining Texts

A header can be put together from parts that were written apart, and scanned
part by part. The parts have to meet at the end of a line, and the scan of a
part has to start where the scan of the part before it came to an end.

What a scan hands on is a number and a region. The number only counts: a scan
that starts later notes the same lines with higher numbers, and `Scanner.shift`
and `ScannedLine.shift` say this for what a scanner has passed and for what it
notes. `next_shift` is the step, and `run_scanLines_shift` the run. So the
region is all that a part has to know of those before it.

Often it need not know even that. A part that starts with a line closing the
range forgets the region it was entered in, whether or not the same line opens
a range again, since the closing marker is looked at first. Words can then be
taken from each part on its own.

## Main definitions

* `ScannedLine.shift`: A line with more lines before it.
* `Scanner.shift`: A scanner with more lines behind it.
* `Markers.scanFrom`: The scan of a text that is entered in some region.
* `Markers.leadsTo`: The region that such a text leads to.

## Theorems

* `next_shift`: One line moves a shifted scanner like the other.
* `run_scanLines_shift`: So do all lines, and they are noted with higher numbers.
* `run_scanLines_snd_eq_shift`: What a scan hands on is a count and a region.
* `words_append`: Words of joined texts, by the region between them.
* `wordsFrom_closing`: A closing line makes all regions before it alike.
* `scan_joined`: The scan of joined texts, by the scans of both.
-/

namespace KeywordTable

/-- The line as it is noted with `n` lines more before it. -/
def ScannedLine.shift (n : Nat) (line : ScannedLine) : ScannedLine :=
  { line with number := line.number + n }

/-- The scanner with `n` lines more behind it. -/
def Scanner.shift (n : Nat) (scanner : Scanner) : Scanner :=
  { scanner with number := scanner.number + n }

/-- There are two regions, so it is enough to know which are inside. -/
theorem Region.eq_of_inside_iff {r r' : Region} (h : r = .inside ↔ r' = .inside) : r = r' := by
  cases r with
  | inside => exact (h.mp rfl).symm
  | outside =>
      cases r' with
      | inside => exact h.mpr rfl
      | outside => rfl

namespace Markers

/-- The scan of a text that is entered in a region. -/
def scanFrom (markers : Markers) (region : Region) (source : String) : List ScannedLine :=
  ((markers.scanLines (Text.lines source.toList)).run { region }).1

/-- The region that a text leads to if it is entered in a region. -/
def leadsTo (markers : Markers) (region : Region) (source : String) : Region :=
  ((markers.scanLines (Text.lines source.toList)).run { region }).2.region

/-- The number of a line makes no difference to what is found there. -/
theorem note_shift (markers : Markers) (n : Nat) (scanner : Scanner) (text : List Char) :
    markers.note (scanner.shift n) text = (markers.note scanner text).shift n := rfl

/-- One line moves a scanner in the same way, however many lines are behind
    it. -/
theorem next_shift (markers : Markers) (n : Nat) (scanner : Scanner) (text : List Char) :
    markers.next (scanner.shift n) text = (markers.next scanner text).shift n := by
  unfold next Scanner.shift
  rw [Nat.add_right_comm]
  rfl

/-- So do all lines, and they are noted with higher numbers. -/
theorem run_scanLines_shift (markers : Markers) (n : Nat) (scanner : Scanner)
    (lines : List (List Char)) :
    (markers.scanLines lines).run (scanner.shift n) =
      (((markers.scanLines lines).run scanner).1.map (ScannedLine.shift n),
        ((markers.scanLines lines).run scanner).2.shift n) := by
  induction lines generalizing scanner with
  | nil => rfl
  | cons text lines ih =>
      rw [run_scanLines_cons, run_scanLines_cons, note_shift, next_shift, ih]
      rfl

/-- What a scan hands on is the number of its lines and a region. -/
theorem run_scanLines_snd_eq_shift (markers : Markers) (region : Region)
    (lines : List (List Char)) :
    ((markers.scanLines lines).run { region }).2 =
      Scanner.shift lines.length
        { region := ((markers.scanLines lines).run { region }).2.region } := by
  have hnumber : ((markers.scanLines lines).run { region }).2.number = 1 + lines.length := by
    rw [run_scanLines_snd, number_foldl_next]
  -- A scanner has nothing but these two.
  cases hend : ((markers.scanLines lines).run { region }).2 with
  | mk number region' =>
      rw [hend] at hnumber
      exact congrArg (Scanner.mk · region') hnumber

/-- The scan of joined texts is the scan of the first and then that of the
    second from the region that the first leads to, with the lines of the first
    counted. -/
theorem run_scanLines_joined (markers : Markers) {front : String} (rest : String)
    (hfront : Text.WholeLines front.toList) :
    (markers.scanLines (Text.lines (front ++ rest).toList)).run {} =
      (markers.scan front ++ (markers.scanFrom (markers.leadsTo .outside front) rest).map
          (ScannedLine.shift (Text.lines front.toList).length),
        ((markers.scanLines (Text.lines rest.toList)).run
          { region := markers.leadsTo .outside front }).2.shift
            (Text.lines front.toList).length) := by
  rw [String.toList_append, Text.lines_append hfront, run_scanLines_append,
    run_scanLines_snd_eq_shift, run_scanLines_shift]
  rfl

/-- The words of joined texts are those of the first and then those that the
    second has from the region that the first leads to. -/
theorem words_append (markers : Markers) {front : String} (rest : String)
    (hfront : Text.WholeLines front.toList) :
    markers.words (front ++ rest) = markers.words front ++
      markers.wordsFrom { region := markers.leadsTo .outside front }
        (Text.lines rest.toList) := by
  rw [words, scan, run_scanLines_joined markers rest hfront, List.filterMap_append,
    List.filterMap_map]
  rfl

/-- A closing line makes all regions before it alike: it is outside whatever they
    were, and leads inside only if it opens a range itself. -/
theorem wordsFrom_closing {markers : Markers} {line : List Char}
    (hclose : markers.closing.toList <:+: line) (scanner scanner' : Scanner)
    (lines : List (List Char)) :
    markers.wordsFrom scanner (line :: lines) = markers.wordsFrom scanner' (line :: lines) := by
  have hout : ∀ s : Scanner, (markers.note s line).inRange = false := by
    intro s
    rw [← Bool.not_eq_true, inRange_note]
    exact fun h => h.2 hclose
  have hword : ∀ s : Scanner, (markers.note s line).word? = none := by
    intro s
    rw [ScannedLine.word?, hout, if_neg Bool.false_ne_true]
  -- What the line leads to depends on the opening marker alone.
  have hnext : (markers.next scanner line).region = (markers.next scanner' line).region := by
    refine Region.eq_of_inside_iff ?_
    rw [region_next, region_next, hout, hout]
  rw [wordsFrom_cons, wordsFrom_cons, hword, hword, wordsFrom_congr hnext]

/-- If the first of two texts consists of whole lines, the scan of both joined is
    the scan of the first followed by the scan of the second, which starts in the
    region that the first leads to and counts the lines of the first. The words
    of the first are the first words of both, and those of the second follow if
    its first line closes the range, or if the first text leads outside. -/
theorem scan_joined (markers : Markers) (front rest : String)
    (hfront : Text.WholeLines front.toList) :
    markers.scan (front ++ rest) =
      markers.scan front ++ (markers.scanFrom (markers.leadsTo .outside front) rest).map
        (ScannedLine.shift (Text.lines front.toList).length) ∧
    markers.leadsTo .outside (front ++ rest) =
      markers.leadsTo (markers.leadsTo .outside front) rest ∧
    markers.words front <+: markers.words (front ++ rest) ∧
    ((∃ line, (Text.lines rest.toList).head? = some line ∧ markers.closing.toList <:+: line) ∨
        markers.leadsTo .outside front = .outside →
      markers.words (front ++ rest) = markers.words front ++ markers.words rest) := by
  have hrun := run_scanLines_joined markers rest hfront
  have hwords := words_append markers rest hfront
  refine ⟨congrArg Prod.fst hrun, congrArg (fun r => r.2.region) hrun, ?_, ?_⟩
  · rw [hwords]
    exact List.prefix_append _ _
  · rw [hwords, words_eq markers rest, List.append_cancel_left_eq]
    rintro (⟨line, hline, hclose⟩ | hout)
    -- The second text on its own starts outside, and its first line does not care.
    · obtain ⟨lines, hlines⟩ := List.head?_eq_some_iff.mp hline
      rw [hlines]
      exact wordsFrom_closing hclose _ _ lines
    · rw [hout]

/-- The first text leads inside, and the second starts with a line that closes
    the range and opens it again. -/
theorem scan_joined_reopening :
    let markers : Markers := {}
    let front := "// Keywords\nIF, 1\n"
    let rest := "TEOF, Keyword\r\nDO"
    Text.WholeLines front.toList ∧
    ((∃ line, (Text.lines rest.toList).head? = some line ∧ markers.closing.toList <:+: line) ∨
      markers.leadsTo .outside front = .outside) ∧
    markers.leadsTo .outside front = .inside ∧
    markers.scan (front ++ rest) =
      markers.scan front ++ (markers.scanFrom .inside rest).map (ScannedLine.shift 2) ∧
    markers.words (front ++ rest) = markers.words front ++ markers.words rest := by
  intro markers front rest
  have hwhole : Text.WholeLines front.toList := Or.inr (by decide +kernel)
  have hcloses : ∃ line, (Text.lines rest.toList).head? = some line ∧
      markers.closing.toList <:+: line :=
    ⟨"TEOF, Keyword".toList, by decide +kernel, by decide +kernel⟩
  have hinside : markers.leadsTo .outside front = .inside := by decide +kernel
  have htwo : (Text.lines front.toList).length = 2 := by decide +kernel
  have h := scan_joined markers front rest hwhole
  rw [hinside, htwo] at h
  exact ⟨hwhole, Or.inl hcloses, hinside, h.1, h.2.2.2 (Or.inl hcloses)⟩

end Markers

end KeywordTable
