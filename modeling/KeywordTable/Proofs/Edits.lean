import KeywordTable.Generate
import KeywordTable.Proofs.Blocks

/-!
# Edits Outside the Range

Most of a header is not about keywords, and whoever changes that part does not
expect the table to change. The table does not, whatever is put in or taken out,
as long as the edit begins and ends with whole lines outside the range and opens
no range itself. It may well close one, since there is none to close.

The edit moves all later lines, so they are scanned with other numbers than
before. `wordsFrom_congr` says that this is all that is different: of what a
scanner has passed only the region matters to the words that it finds.

## Theorems

* `Markers.region_next_congr`: The next region depends on no number.
* `Markers.wordsFrom_congr`: Nor do the words.
* `Markers.wordsFrom_append_gap`: A gap between two stretches leaves no trace.
* `Settings.render_edit_outside`: An edit outside the range changes no table.
-/

namespace KeywordTable

namespace Markers

theorem inRange_note_congr {scanner scanner' : Scanner} (h : scanner.region = scanner'.region)
    (markers : Markers) (text : List Char) :
    (markers.note scanner text).inRange = (markers.note scanner' text).inRange := by
  rw [Bool.eq_iff_iff, inRange_note, inRange_note, h]

/-- A line leads to a region that depends on the region before it and on no
    number. -/
theorem region_next_congr {scanner scanner' : Scanner} (h : scanner.region = scanner'.region)
    (markers : Markers) (text : List Char) :
    (markers.next scanner text).region = (markers.next scanner' text).region := by
  unfold next note
  rw [h]
  rfl

/-- Of what a scanner has passed only the region matters to the words that it
    finds. -/
theorem wordsFrom_congr {scanner scanner' : Scanner} (h : scanner.region = scanner'.region)
    (markers : Markers) (lines : List (List Char)) :
    markers.wordsFrom scanner lines = markers.wordsFrom scanner' lines := by
  induction lines generalizing scanner scanner' with
  | nil => rfl
  | cons text lines ih =>
      have hword : (markers.note scanner text).word? = (markers.note scanner' text).word? := by
        unfold ScannedLine.word?
        rw [inRange_note_congr h]
        rfl
      rw [wordsFrom_cons, wordsFrom_cons, hword, ih (region_next_congr h markers text)]

/-- A gap between two stretches of lines leaves no trace, if the first of them
    leads outside. -/
theorem wordsFrom_append_gap {markers : Markers} {xs : List (List Char)}
    (hout : (xs.foldl markers.next {}).region = .outside) (gap : Gap markers)
    (ys : List (List Char)) :
    markers.wordsFrom {} (xs ++ gap.lines ++ ys) = markers.wordsFrom {} (xs ++ ys) := by
  rcases yields_gap markers gap _ hout with ⟨hnone, hstill⟩
  rw [List.append_assoc, wordsFrom_append, wordsFrom_append, wordsFrom_append, hnone,
    List.nil_append]
  -- The scanner has passed more lines and is where it was.
  rw [wordsFrom_congr (hstill.trans hout.symm)]

end Markers

/-- An edit outside the range changes neither the words nor the table: two
    headers that agree before and after stretches of whole lines which open no
    range make the same table, if the lines before lead outside. -/
theorem Settings.render_edit_outside (settings : Settings) (before edit edit' rest : String)
    (hbefore : Text.WholeLines before.toList)
    (hedit : Text.WholeLines edit.toList) (hedit' : Text.WholeLines edit'.toList)
    (hout : ((settings.markers.scanLines (Text.lines before.toList)).run {}).2.region = .outside)
    (hopen : ∀ line ∈ Text.lines edit.toList, ¬ settings.markers.opening.toList <:+: line)
    (hopen' : ∀ line ∈ Text.lines edit'.toList, ¬ settings.markers.opening.toList <:+: line) :
    settings.render (before ++ edit ++ rest) = settings.render (before ++ edit' ++ rest) := by
  rw [Markers.run_scanLines_snd] at hout
  -- Both come to the header without any edit.
  have hwords : ∀ middle : String, Text.WholeLines middle.toList →
      (∀ line ∈ Text.lines middle.toList, ¬ settings.markers.opening.toList <:+: line) →
      settings.markers.words (before ++ middle ++ rest) =
        settings.markers.wordsFrom {} (Text.lines before.toList ++ Text.lines rest.toList) := by
    intro middle hwhole hgap
    rw [Markers.words_eq, String.toList_append, String.toList_append, List.append_assoc,
      Text.lines_append hbefore, Text.lines_append hwhole, ← List.append_assoc]
    exact Markers.wordsFrom_append_gap hout ⟨_, hgap⟩ _
  unfold render
  rw [hwords edit hedit hopen, hwords edit' hedit' hopen']

/-- The edit takes out a line with a stray closing marker and puts in two
    others, between two blocks. -/
theorem Settings.render_edit_outside_stray :
    let settings : Settings := { input := .ofText "token.h", output := .ofText "table.h" }
    let before := "// Keywords\nIF, 1\nTEOF\n"
    let edit := "ELSE, TEOF\r\n"
    let edit' := "\n,WHILE\n"
    let rest := "Keyword\nDO"
    Text.WholeLines before.toList ∧ Text.WholeLines edit.toList ∧ Text.WholeLines edit'.toList ∧
    ((settings.markers.scanLines (Text.lines before.toList)).run {}).2.region = .outside ∧
    (∀ line ∈ Text.lines edit.toList, ¬ settings.markers.opening.toList <:+: line) ∧
    (∀ line ∈ Text.lines edit'.toList, ¬ settings.markers.opening.toList <:+: line) ∧
    settings.render (before ++ edit ++ rest) = settings.render (before ++ edit' ++ rest) := by
  intro settings before edit edit' rest
  have hbefore : Text.WholeLines before.toList := Or.inr (by decide +kernel)
  have hedit : Text.WholeLines edit.toList := Or.inr (by decide +kernel)
  have hedit' : Text.WholeLines edit'.toList := Or.inr (by decide +kernel)
  have hout : ((settings.markers.scanLines (Text.lines before.toList)).run {}).2.region =
      .outside := by decide +kernel
  have hopen : ∀ line ∈ Text.lines edit.toList,
      ¬ settings.markers.opening.toList <:+: line := by decide +kernel
  have hopen' : ∀ line ∈ Text.lines edit'.toList,
      ¬ settings.markers.opening.toList <:+: line := by decide +kernel
  exact ⟨hbefore, hedit, hedit', hout, hopen, hopen',
    render_edit_outside settings before edit edit' rest hbefore hedit hedit' hout hopen hopen'⟩

end KeywordTable
