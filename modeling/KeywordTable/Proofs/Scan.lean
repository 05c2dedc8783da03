import KeywordTable.Proofs.Text
import KeywordTable.Word

/-!
# Scans and Their History

What a scan has reached after some lines depends on all of them, but it keeps
no more than a region. This module says what that region knows.

A scan is a map in a state monad. `note` and `next` are its two halves for one
line, what is noted and how far the scanner has come, and `run_scanLines_cons`
and `run_scanLines_append` take a run apart with them. A run from the middle of
a text starts from the scanner that the lines before have reached, so a run over
some lines and more lines is two runs.

The region is a summary of the lines passed: it is inside exactly if some line
opened a range and no line after that one closed it. `StaysOpen` is that
condition on two line indices, and `region_reached` is the invariant, by
induction on the number of lines passed. Where the two markers stand on one
line the order of the two tests decides. The opening marker is looked at last,
so the line that opens a range is not one of those that could close it.

## Main definitions

* `Markers.note`: What a scanner notes of a line.
* `Markers.next`: The scanner after a line.
* `Markers.reached`: The scanner after the first lines of a text.
* `Markers.LineContains`: A line contains a text.
* `Markers.StaysOpen`: A line opens a range that is not closed up to another.
* `Markers.wordsFrom`: The words that a scanner finds in lines.

## Theorems

* `run_scanLines_append`: A run over two stretches of lines is two runs.
* `getElem_scanLines`: What a run notes of a line, by the lines before it.
* `region_next`: How one line moves the region.
* `region_reached`: The region knows whether a range was left open.
* `scan_tracks_history`: A scan numbers every line and knows its history.
* `exists_line_of_mem_words`: A word is the word of a line.
* `wordsFrom_append`: Words are found stretch by stretch.
-/

namespace KeywordTable

/-- A word has no characters that its line does not have. -/
theorem Word.mem_of_mem_ofLine {line : List Char} {word : Word} {c : Char}
    (h : Word.ofLine? line = some word) (hc : c ∈ word.chars) : c ∈ line := by
  unfold Word.ofLine? at h
  split at h
  · cases h
    exact (List.takeWhile_sublist _).mem (Text.mem_of_mem_trim hc)
  · exact absurd h (by simp only [reduceCtorEq, not_false_eq_true])

namespace Markers

/-- What a scanner notes of a line. -/
def note (markers : Markers) (scanner : Scanner) (text : List Char) : ScannedLine :=
  { number := scanner.number
    chars := text
    before := scanner.region
    closes := markers.closesAt text
    opens := markers.opensAt text }

/-- The scanner after a line. -/
def next (markers : Markers) (scanner : Scanner) (text : List Char) : Scanner :=
  { number := scanner.number + 1, region := (markers.note scanner text).after }

theorem run_scanLines_nil (markers : Markers) (scanner : Scanner) :
    (markers.scanLines []).run scanner = ([], scanner) := rfl

theorem run_scanLines_cons (markers : Markers) (scanner : Scanner) (text : List Char)
    (lines : List (List Char)) :
    (markers.scanLines (text :: lines)).run scanner =
      (markers.note scanner text :: ((markers.scanLines lines).run (markers.next scanner text)).1,
        ((markers.scanLines lines).run (markers.next scanner text)).2) := by
  unfold scanLines
  rw [List.mapM_cons, StateT.run_bind]
  rfl

/-- A run over two stretches of lines is two runs, the second of which starts
    from the scanner that the first one reached. -/
theorem run_scanLines_append (markers : Markers) (scanner : Scanner)
    (xs ys : List (List Char)) :
    (markers.scanLines (xs ++ ys)).run scanner =
      (((markers.scanLines xs).run scanner).1 ++
          ((markers.scanLines ys).run ((markers.scanLines xs).run scanner).2).1,
        ((markers.scanLines ys).run ((markers.scanLines xs).run scanner).2).2) := by
  unfold scanLines
  rw [List.mapM_append, StateT.run_bind]
  rfl

/-- The scanner that a run ends with is the fold of `next`. -/
theorem run_scanLines_snd (markers : Markers) (scanner : Scanner) (lines : List (List Char)) :
    ((markers.scanLines lines).run scanner).2 = lines.foldl markers.next scanner := by
  induction lines generalizing scanner with
  | nil => rfl
  | cons text lines ih =>
      rw [run_scanLines_cons, List.foldl_cons]
      exact ih (markers.next scanner text)

/-- A run notes each line, as the scanner finds it that the lines before have
    reached. -/
theorem getElem_scanLines (markers : Markers) (scanner : Scanner) (lines : List (List Char))
    (i : Nat) :
    ((markers.scanLines lines).run scanner).1[i]? =
      lines[i]?.map (markers.note ((lines.take i).foldl markers.next scanner)) := by
  induction lines generalizing scanner i with
  | nil => rw [run_scanLines_nil, List.getElem?_nil, List.getElem?_nil, Option.map_none]
  | cons text lines ih =>
      rw [run_scanLines_cons]
      cases i with
      | zero => rfl
      | succ i =>
          rw [List.getElem?_cons_succ, List.getElem?_cons_succ, List.take_succ_cons,
            List.foldl_cons]
          exact ih (markers.next scanner text) i

/-- Every line is noted once. -/
theorem length_scanLines (markers : Markers) (scanner : Scanner) (lines : List (List Char)) :
    ((markers.scanLines lines).run scanner).1.length = lines.length := by
  induction lines generalizing scanner with
  | nil => rfl
  | cons text lines ih =>
      rw [run_scanLines_cons, List.length_cons, List.length_cons, ih]

/-- The number of the next line counts the lines passed. -/
theorem number_foldl_next (markers : Markers) (scanner : Scanner) (lines : List (List Char)) :
    (lines.foldl markers.next scanner).number = scanner.number + lines.length := by
  induction lines generalizing scanner with
  | nil => rfl
  | cons text lines ih =>
      have hnext : (markers.next scanner text).number = scanner.number + 1 := rfl
      rw [List.foldl_cons, ih, hnext, List.length_cons]
      omega

theorem opensAt_iff (markers : Markers) (text : List Char) :
    markers.opensAt text = true ↔ markers.opening.toList <:+: text :=
  Text.occursIn_iff _ _

theorem closesAt_iff (markers : Markers) (text : List Char) :
    markers.closesAt text = true ↔ markers.closing.toList <:+: text :=
  Text.occursIn_iff _ _

/-- The scanner after the first `n` of some lines. -/
def reached (markers : Markers) (lines : List (List Char)) (n : Nat) : Scanner :=
  ((markers.scanLines (lines.take n)).run {}).2

/-- Line `i` contains the text. -/
def LineContains (lines : List (List Char)) (i : Nat) (text : String) : Prop :=
  ∃ line, lines[i]? = some line ∧ text.toList <:+: line

/-- Line `j` opens a range that no line after it, up to line `i`, closes. -/
def StaysOpen (markers : Markers) (lines : List (List Char)) (j i : Nat) : Prop :=
  LineContains lines j markers.opening ∧
    ∀ k, j < k → k ≤ i → ¬ LineContains lines k markers.closing

theorem reached_eq (markers : Markers) (lines : List (List Char)) (n : Nat) :
    markers.reached lines n = (lines.take n).foldl markers.next {} :=
  run_scanLines_snd markers {} (lines.take n)

theorem reached_succ (markers : Markers) (lines : List (List Char)) (n : Nat)
    (hn : n < lines.length) :
    markers.reached lines (n + 1) = markers.next (markers.reached lines n) lines[n] := by
  rw [reached_eq, reached_eq, List.take_add_one, List.getElem?_eq_getElem hn,
    Option.toList_some, List.foldl_append, List.foldl_cons, List.foldl_nil]

theorem number_reached (markers : Markers) (lines : List (List Char)) (n : Nat)
    (hn : n ≤ lines.length) : (markers.reached lines n).number = n + 1 := by
  rw [reached_eq, number_foldl_next, List.length_take, Nat.min_eq_left hn, Nat.add_comm]

/-- What a scan notes of a line of the text. -/
theorem getElem_scan (markers : Markers) (source : String) (i : Nat)
    (hi : i < (Text.lines source.toList).length) :
    (markers.scan source)[i]? =
      some (markers.note (markers.reached (Text.lines source.toList) i)
        (Text.lines source.toList)[i]) := by
  rw [scan, getElem_scanLines, List.getElem?_eq_getElem hi, Option.map_some, reached_eq]

theorem lineContains_iff (lines : List (List Char)) (i : Nat) (text : String)
    (hi : i < lines.length) : LineContains lines i text ↔ text.toList <:+: lines[i] := by
  rw [LineContains, List.getElem?_eq_getElem hi]
  simp only [Option.some.injEq, exists_eq_left']

/-- A line lies inside the range if the region was inside before it and it does
    not close the range. -/
theorem inRange_note (markers : Markers) (scanner : Scanner) (text : List Char) :
    (markers.note scanner text).inRange = true ↔
      scanner.region = .inside ∧ ¬ markers.closing.toList <:+: text := by
  rw [ScannedLine.inRange, beq_iff_eq, ScannedLine.region, ← closesAt_iff]
  change (if markers.closesAt text = true then Region.outside else scanner.region) = .inside ↔ _
  by_cases hc : markers.closesAt text = true
  · rw [if_pos hc]
    simp only [hc, not_true_eq_false, and_false, reduceCtorEq]
  · rw [if_neg hc, and_iff_left hc]

/-- A line leads inside if it opens a range or lies inside one. The opening
    marker is looked at last, so it decides whatever else is on the line. -/
theorem region_next (markers : Markers) (scanner : Scanner) (text : List Char) :
    (markers.next scanner text).region = .inside ↔
      markers.opening.toList <:+: text ∨ (markers.note scanner text).inRange = true := by
  change (if markers.opensAt text = true then Region.inside
    else (markers.note scanner text).region) = .inside ↔ _
  rw [ScannedLine.inRange, beq_iff_eq, ← opensAt_iff]
  by_cases ho : markers.opensAt text = true
  · rw [if_pos ho]
    exact ⟨fun _ => Or.inl ho, fun _ => rfl⟩
  · rw [if_neg ho, or_iff_right ho]

/-- A range open after a line was opened by it or has stayed open from before. -/
theorem exists_staysOpen_le (markers : Markers) (lines : List (List Char)) (i : Nat) :
    (∃ j, j ≤ i ∧ markers.StaysOpen lines j i) ↔
      LineContains lines i markers.opening ∨ ∃ j, j < i ∧ markers.StaysOpen lines j i := by
  constructor
  · rintro ⟨j, hj, hopen⟩
    rcases Nat.eq_or_lt_of_le hj with rfl | hlt
    · exact Or.inl hopen.1
    · exact Or.inr ⟨j, hlt, hopen⟩
  · rintro (hopen | ⟨j, hj, hopen⟩)
    · exact ⟨i, Nat.le_refl i, hopen, fun k hik hki => by omega⟩
    · exact ⟨j, by omega, hopen⟩

/-- A range that was open before a line stays so unless the line closes it. -/
theorem exists_staysOpen_succ (markers : Markers) (lines : List (List Char)) (i : Nat) :
    (∃ j, j < i + 1 ∧ markers.StaysOpen lines j (i + 1)) ↔
      (∃ j, j ≤ i ∧ markers.StaysOpen lines j i) ∧
        ¬ LineContains lines (i + 1) markers.closing := by
  constructor
  · rintro ⟨j, hj, hopen, hclose⟩
    exact ⟨⟨j, by omega, hopen, fun k hjk hki => hclose k hjk (by omega)⟩,
      hclose (i + 1) hj (by omega)⟩
  · rintro ⟨⟨j, hj, hopen, hclose⟩, hlast⟩
    refine ⟨j, by omega, hopen, fun k hjk hki => ?_⟩
    rcases Nat.eq_or_lt_of_le hki with rfl | hlt
    · exact hlast
    · exact hclose k hjk (by omega)

/-- A line lies inside the range exactly if an earlier line opened a range that
    has stayed open, this line included. The induction is on the index: what
    the line before led to is what that line opened or lay in. -/
theorem inRange_reached (markers : Markers) (lines : List (List Char)) (i : Nat)
    (hi : i < lines.length) :
    (markers.note (markers.reached lines i) lines[i]).inRange = true ↔
      ∃ j, j < i ∧ markers.StaysOpen lines j i := by
  rw [inRange_note, ← lineContains_iff]
  induction i with
  | zero =>
      constructor
      · rintro ⟨hinside, -⟩
        have hstart : (markers.reached lines 0).region = .outside := rfl
        rw [hstart] at hinside
        exact absurd hinside (by simp only [reduceCtorEq, not_false_eq_true])
      · rintro ⟨j, hj, -⟩
        omega
  | succ i ih =>
      have hi' : i < lines.length := by omega
      rw [reached_succ markers lines i hi', region_next, inRange_note, ← lineContains_iff,
        ← lineContains_iff, ih hi', ← exists_staysOpen_le, exists_staysOpen_succ]

/-- The region after a line is inside exactly if some line up to it, itself
    perhaps, opened a range that has stayed open. -/
theorem region_reached (markers : Markers) (lines : List (List Char)) (i : Nat)
    (hi : i < lines.length) :
    (markers.reached lines (i + 1)).region = .inside ↔
      ∃ j, j ≤ i ∧ markers.StaysOpen lines j i := by
  rw [reached_succ markers lines i hi, region_next, inRange_reached,
    ← lineContains_iff lines i markers.opening hi, exists_staysOpen_le]

/-- A scan notes every line of the text once, in order and numbered from one,
    and it knows their history: a line lies inside the range exactly if an
    earlier line opened a range that has stayed open, and the scanner that has
    passed a line is inside exactly if that line or an earlier one did. -/
theorem scan_tracks_history (markers : Markers) (source : String) :
    (markers.scan source).length = (Text.lines source.toList).length ∧
    ∀ i : Fin (Text.lines source.toList).length,
      ∃ line, (markers.scan source)[i.val]? = some line ∧
        line.number = i.val + 1 ∧
        line.chars = (Text.lines source.toList)[i.val] ∧
        (line.inRange = true ↔
          ∃ j, j < i.val ∧ markers.StaysOpen (Text.lines source.toList) j i.val) ∧
        line.after = (markers.reached (Text.lines source.toList) (i.val + 1)).region ∧
        ((markers.reached (Text.lines source.toList) (i.val + 1)).region = .inside ↔
          ∃ j, j ≤ i.val ∧ markers.StaysOpen (Text.lines source.toList) j i.val) := by
  refine ⟨length_scanLines markers {} _, ?_⟩
  rintro ⟨i, hi⟩
  refine ⟨_, getElem_scan markers source i hi, number_reached markers _ i (by omega), rfl,
    inRange_reached markers _ i hi, ?_, region_reached markers _ i hi⟩
  rw [reached_succ markers _ i hi]
  rfl

-- A line with both markers is not inside, and the next one is.
example : ((({ opening := "<", closing := ">" } : Markers).scanLines
    [['<'], ['A'], ['>', '<'], ['B'], ['>']]).run {}).1.map ScannedLine.inRange
      = [false, true, false, true, false] := by rfl

/-- The words that a scanner finds in lines. -/
def wordsFrom (markers : Markers) (scanner : Scanner) (lines : List (List Char)) : List Word :=
  ((markers.scanLines lines).run scanner).1.filterMap ScannedLine.word?

theorem words_eq (markers : Markers) (source : String) :
    markers.words source = markers.wordsFrom {} (Text.lines source.toList) := rfl

theorem wordsFrom_nil (markers : Markers) (scanner : Scanner) :
    markers.wordsFrom scanner [] = [] := rfl

theorem wordsFrom_cons (markers : Markers) (scanner : Scanner) (text : List Char)
    (lines : List (List Char)) :
    markers.wordsFrom scanner (text :: lines) =
      (markers.note scanner text).word?.toList
        ++ markers.wordsFrom (markers.next scanner text) lines := by
  rw [wordsFrom, run_scanLines_cons, List.filterMap_cons]
  cases (markers.note scanner text).word? with
  | none => rfl
  | some word => rfl

/-- A word of a text is the word of one of its lines. -/
theorem exists_line_of_mem_words {markers : Markers} {source : String} {word : Word}
    (h : word ∈ markers.words source) :
    ∃ line ∈ Text.lines source.toList, Word.ofLine? line = some word := by
  rcases List.mem_filterMap.mp h with ⟨scanned, hscanned, hword⟩
  rcases List.mem_iff_getElem?.mp hscanned with ⟨i, hi⟩
  rw [scan, getElem_scanLines] at hi
  rcases Option.map_eq_some_iff.mp hi with ⟨line, hline, rfl⟩
  refine ⟨line, List.mem_of_getElem? hline, ?_⟩
  unfold ScannedLine.word? at hword
  split at hword
  · exact hword
  · exact absurd hword (by simp only [reduceCtorEq, not_false_eq_true])

/-- Words are found stretch by stretch. -/
theorem wordsFrom_append (markers : Markers) (scanner : Scanner) (xs ys : List (List Char)) :
    markers.wordsFrom scanner (xs ++ ys) =
      markers.wordsFrom scanner xs
        ++ markers.wordsFrom (xs.foldl markers.next scanner) ys := by
  rw [wordsFrom, run_scanLines_append, List.filterMap_append, run_scanLines_snd]
  rfl

end Markers

end KeywordTable
