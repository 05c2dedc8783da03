import KeywordTable.Proofs.Written

/-!
# Documents of the Format as Settings Files

The reader of settings files against the format. A document is given here by its
derivation: the text is one of the format, and the derivation says what its
lines are. No part of the reader is mentioned in that. Two conditions are put on
it. The document gives no key twice, which makes it a valid one, and it stays
within the limits of the reader: arrays and tables in braces are nested at most
`maxDepth` deep, keys have at most that many parts, and numbers are ones that
are kept.

Then the document is a settings file if and only if it fits, and what it sets is
what it gives. What it gives is said of the document as a whole and does not
mention an order, so documents with the same contents are the same file. That
is part of the statement, for any two documents and not only for those that
differ by a swap.

The limit is not a convenience of the proof. An array that gives both paths may
have further items, and these are never looked at; but if one of them is an
array that goes too deep the document is refused, although it is valid and fits.

## Main definitions

* `SameContents`: Two documents have the same at every path.
* `nestedArray`, `nestedText`: An array in an array, so many times over.
* `pathsText`, `pathsLine`: A line that gives the paths by an array.
* `mixedText`, `mixedLines`: A document that uses arrays, headers and keys.

## Theorems

* `sameContents_of_perm`: The order of keys and sections is no part of the
  contents.
* `parse_ok_iff_fits`: A document is read if and only if it fits, and as what it
  gives.
* `parse_beyond_depth`: A document that goes too deep is refused.
-/

namespace KeywordTable

open Toml (Line Part Value IsDocument IsLine IsValue Consistent maxDepth isDocument_line
  isPath_name)

namespace Toml

/-- The documents have the same at every path, in whatever order. -/
def SameContents (lines lines' : List Line) : Prop :=
  ∀ q c, (Value.ofLines lines).Has q c ↔ (Value.ofLines lines').Has q c

theorem SameContents.eq {lines lines' : List Line} (h : SameContents lines lines') :
    (Value.ofLines lines).Has = (Value.ofLines lines').Has :=
  funext fun q => funext fun c => propext (h q c)

/-- The order of keys and sections is no part of the contents. -/
theorem sameContents_of_perm {lines lines' : List Line}
    (h : (Line.facts [] lines).Perm (Line.facts [] lines')) : SameContents lines lines' := by
  intro q c
  simp only [Value.ofLines, has_table_iff, PathLayout.pairs, h.mem_iff]

end Toml

open Toml (SameContents sameContents_of_perm)

/-! ### Documents with an array -/

/-- A line that gives the paths by an array with one item more than it needs. -/
def pathsText (item : List Char) : List Char :=
  SettingGroup.paths.name.toList ++ (" = [\"a\", \"b\", ".toList ++ (item ++ [']']))

/-- What the line says. -/
def pathsLine (item : Value) : Line :=
  .pair ["paths"] (.array [.string "a", .string "b", item])

theorem isLine_paths {depth : Nat} {cs : List Char} {v : Value}
    (h : IsValue (depth + 1) depth cs v) : IsLine (depth + 1) (pathsText cs) (pathsLine v) := by
  have hblank : Toml.Blank [' '] := fun c hc => Or.inl (List.mem_singleton.mp hc)
  have hgap : Toml.Gap [' '] := .blank (Or.inl rfl) .nil
  have ha : IsValue (depth + 1) depth ['"', 'a', '"'] (.string "a") :=
    Toml.isValue_spelling depth (.letter 'a' "a" (by decide) (by decide))
  have hb : IsValue (depth + 1) depth ['"', 'b', '"'] (.string "b") :=
    Toml.isValue_spelling depth (.letter 'b' "b" (by decide) (by decide))
  have hitems := Toml.IsItems.cons .nil ha .nil (.cons hgap hb .nil (.last hgap h .nil))
  have hpath := isPath_name (name_group_bare .paths).1 (name_group_bare .paths).2 hblank
  have hvalue : IsValue (depth + 1) (depth + 1) _ (.array [.string "a", .string "b", v]) :=
    .array hitems
  have hline := IsLine.pair (.mk hpath (Nat.le_add_left 1 depth) hblank hvalue)
  have hopening : " = [\"a\", \"b\", ".toList =
      [' ', '=', ' ', '[', '"', 'a', '"', ',', ' ', '"', 'b', '"', ',', ' '] := by decide
  simp only [List.append_assoc, List.cons_append, List.nil_append] at hline
  rw [pathsText, hopening]
  exact hline

theorem fits_pathsLine (v : Value) : SettingsFile.Fits (Value.ofLines [pathsLine v]).Has := by
  intro name c h
  rcases (Toml.has_table_iff _ _ _).mp h with ⟨hnil, -⟩ | ⟨w, hw, hbelow⟩
  · cases hnil
  · rw [List.mem_singleton.mp hw] at hbelow
    rcases hbelow with ⟨rfl, harray⟩
    cases harray
    have htexts : ∀ text? ∈ [some "a", some "b"], Option.isSome text? = true := by decide
    exact ⟨.paths, rfl, Nat.le_succ 2, htexts⟩

/-- A start marker and a name. -/
def SettingsFile.sample : SettingsFile where
  value? s := if s = .opening then some "s" else if s = .tableName then some "t" else none

/-- A document that gives its paths by an array with a date in it, and after
    that some groups of the sample. -/
def mixedText (groups : List SettingGroup) : String :=
  .ofList (pathsText "1979-05-27".toList ++
    '\n' :: groups.flatMap (SettingsFile.sample.groupText default))

/-- What the document says. -/
def mixedLines (groups : List SettingGroup) : List Line :=
  pathsLine .other :: (groups.map (SettingsFile.sample.part default)).flatMap Part.lines

example : mixedText [.markers, .table] =
    "paths = [\"a\", \"b\", 1979-05-27]\n[markers]\nstart = \"s\"\n[table]\nname = \"t\"\n" := by
  decide +kernel

theorem isDocument_mixed (groups : List SettingGroup) :
    IsDocument maxDepth (mixedText groups).toList (mixedLines groups) := by
  have hyear : Toml.Field 4 0 9999 ['1', '9', '7', '9'] 1979 :=
    ⟨rfl, Toml.forall_of_all (by decide), rfl, by decide, by decide⟩
  have hmonth : Toml.Field 2 1 12 ['0', '5'] 5 :=
    ⟨rfl, Toml.forall_of_all (by decide), rfl, by decide, by decide⟩
  have hday : Toml.Field 2 1 31 ['2', '7'] 27 :=
    ⟨rfl, Toml.forall_of_all (by decide), rfl, by decide, by decide⟩
  have hdate : Toml.IsDate "1979-05-27".toList := .mk hyear hmonth hday
  have hvalue : IsValue (78 + 1) 78 "1979-05-27".toList .other :=
    Toml.isValue_simple 78 (.atom (.moment (.date hdate)))
  rw [mixedText, String.toList_ofList]
  exact isDocument_line (isLine_paths hvalue) (isDocument_groups .sample default groups)

theorem perm_mixed : (Line.facts [] (mixedLines [.markers, .table])).Perm
    (Line.facts [] (mixedLines [.table, .markers])) := by
  have hswap : ∀ xs ys : List (List String × Value), (xs ++ ys).Perm (ys ++ xs) :=
    fun _ _ => List.perm_append_comm
  exact .cons _ (hswap (SettingsFile.sample.part default .markers).facts
    (SettingsFile.sample.part default .table).facts)

/-! ### Reading documents -/

/-- A document that gives no key twice is a settings file if and only if it
    fits, and then every setting is what the document gives, in whatever order
    it does. Any other is refused. -/
theorem parse_ok_iff_fits {text : String} {lines : List Line}
    (hdocument : IsDocument maxDepth text.toList lines) (hconsistent : Consistent lines) :
    ((∃ file, SettingsFile.parse text = .ok file) ↔ SettingsFile.Fits (Value.ofLines lines).Has) ∧
      (∀ file, SettingsFile.parse text = .ok file →
        ∀ s v, file.value? s = some v ↔ s.Given (Value.ofLines lines).Has v) ∧
      (¬ SettingsFile.Fits (Value.ofLines lines).Has → ∃ e, SettingsFile.parse text = .error e) ∧
      ∀ text' lines', IsDocument maxDepth text'.toList lines' → Consistent lines' →
        SameContents lines lines' → ∀ file, SettingsFile.parse text = .ok file →
          SettingsFile.parse text' = .ok file := by
  rcases Toml.exists_statements hdocument with ⟨statements, hread, hlines⟩
  have hfits : ∀ file, SettingsFile.parse text = .ok file →
      SettingsFile.Fits (Value.ofLines lines).Has := fun _ h => (fits_of_parse hread hlines h).1
  refine ⟨⟨fun ⟨file, h⟩ => hfits file h, fun h => exists_parse hread hlines h hconsistent⟩,
    fun file h => (fits_of_parse hread hlines h).2, fun hnot => ?_, ?_⟩
  · cases hparse : SettingsFile.parse text with
    | ok file => exact absurd (hfits file hparse) hnot
    | error e => exact ⟨e, rfl⟩
  · -- The other document fits as well, and gives every setting the same.
    intro text' lines' hdocument' hconsistent' hsame file hfile
    rcases Toml.exists_statements hdocument' with ⟨statements', hread', hlines'⟩
    have hfits' : SettingsFile.Fits (Value.ofLines lines').Has := hsame.eq ▸ hfits file hfile
    rcases exists_parse hread' hlines' hfits' hconsistent' with ⟨file', hfile'⟩
    have heq : file' = file := by
      refine SettingsFile.ext fun s v => ?_
      rw [(fits_of_parse hread' hlines' hfile').2, (fits_of_parse hread hlines hfile).2, hsame.eq]
    rw [hfile', heq]

/-- The document in two orders is the same file. -/
theorem parse_ok_iff_fits_mixed :
    IsDocument maxDepth (mixedText [.markers, .table]).toList (mixedLines [.markers, .table]) ∧
      Consistent (mixedLines [.markers, .table]) ∧
      ∃ file, SettingsFile.parse (mixedText [.markers, .table]) = .ok file ∧
        SettingsFile.parse (mixedText [.table, .markers]) = .ok file ∧
        file.value? .input = some "a" ∧ file.value? .opening = some "s" := by
  have hdocument := isDocument_mixed [.markers, .table]
  have hconsistent : Consistent (mixedLines [.markers, .table]) := fun _ => by decide
  have hconsistent' : Consistent (mixedLines [.table, .markers]) := fun _ => by decide
  rcases parse_ok_iff_fits hdocument hconsistent with ⟨-, hgiven, -, horder⟩
  -- One of the two is parsed by running it, and the other is the same file.
  have hok : (SettingsFile.parse (mixedText [.markers, .table])).isOk = true := by decide +kernel
  have hpaths : (["paths"], Value.array [.string "a", .string "b", .other]) ∈
      Line.facts [] (mixedLines [.markers, .table]) := .head _
  have hstart : (["markers", "start"], Value.string "s") ∈
      Line.facts [] (mixedLines [.markers, .table]) := .tail _ (.tail _ (.head _))
  cases hfile : SettingsFile.parse (mixedText [.markers, .table]) with
  | error e =>
      rw [hfile] at hok
      cases hok
  | ok file =>
      refine ⟨hdocument, hconsistent, file, rfl, ?_, (hgiven file hfile _ _).mpr (Or.inr ?_),
        (hgiven file hfile _ _).mpr (Or.inl ?_)⟩
      · exact horder _ _ (isDocument_mixed _) hconsistent' (sameContents_of_perm perm_mixed) file
          hfile
      · exact ⟨[some "a", some "b", none], 0, .inside hpaths (.array _), rfl, rfl⟩
      · exact .inside hstart (.string "s")

/-! ### Beyond the limit -/

namespace Toml

/-- An array in an array, so many times over. -/
def nestedArray : Nat → Value
  | 0 => .array []
  | n + 1 => .array [nestedArray n]

/-- The same as it is written. -/
def nestedText : Nat → List Char
  | 0 => ['[', ']']
  | n + 1 => '[' :: (nestedText n ++ [']'])

theorem isValue_nestedText (limit n : Nat) :
    IsValue limit (n + 1) (nestedText n) (nestedArray n) := by
  induction n with
  | zero => exact .array (.nil .nil)
  | succ n ih => exact .array (.last .nil ih .nil)

end Toml

/-- A document that goes deeper than the reader by one array. -/
def deepText : String := .ofList (pathsText (Toml.nestedText 78))

/-- A document that fits and gives no key twice is not read if it goes deeper
    than the reader. -/
theorem parse_beyond_depth :
    IsDocument 80 deepText.toList [pathsLine (Toml.nestedArray 78)] ∧
      Consistent [pathsLine (Toml.nestedArray 78)] ∧
      SettingsFile.Fits (Value.ofLines [pathsLine (Toml.nestedArray 78)]).Has ∧
      SettingsFile.parse deepText = .error .malformed := by
  have htext : deepText.toList = pathsText (Toml.nestedText 78) := String.toList_ofList
  have hline : IsLine 80 (pathsText (Toml.nestedText 78)) (pathsLine (Toml.nestedArray 78)) :=
    isLine_paths (Toml.isValue_nestedText 80 78)
  refine ⟨?_, fun _ => List.pairwise_singleton _ _, fits_pathsLine _, ?_⟩
  · have hdocument := IsDocument.last hline (.blank Toml.blank_nil)
    rwa [List.append_nil, ← htext] at hdocument
  · -- The innermost array is met at depth zero, where only simple values are read.
    have hnone : (Toml.statements (pathsText (Toml.nestedText 78))).isNone = true := by
      decide +kernel
    have hread : Toml.statements deepText.toList = none := by
      rw [htext]
      exact Option.isNone_iff_eq_none.mp hnone
    unfold SettingsFile.parse Toml.parse?
    rw [hread]
    rfl

end KeywordTable
