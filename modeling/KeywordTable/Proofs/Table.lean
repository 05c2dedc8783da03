import KeywordTable.Generate
import KeywordTable.Proofs.Entries
import KeywordTable.Proofs.Scan

/-!
# The Lines of a Table

A table is nine lines, and only the seventh depends on the header that it was
made from. For that to hold nothing in the header may put a line feed into the
table. A word is part of a line, and lines have no line feed, since it is where
they end; every other character that can end a line somewhere, a lone carriage
return or a Unicode separator, may be part of a word, and does no harm here. The
key is the lower case of a word, and no line feed comes from lowering. So the
names chosen for the template are the only way a line feed could get in.

`Template.frame` has the nine lines, and `table_eq` says that writing the layout
comes to ending each with a line feed. With no line feed inside the lines,
cutting the table at line feeds gives the nine lines back, so two tables can be
compared line by line. The seventh lines are compared by their entries, which
are read back in `Proofs.Entries`.

## Main definitions

* `Template.frame`: The nine lines of a table.

## Theorems

* `table_eq`: A table is its nine lines, each ended by a line feed.
* `newline_not_mem_of_mem_words`: A word of a header has no line feed.
* `newline_not_mem_entries`: Entries have a line feed only from a word.
* `newline_not_mem_frame`: The nine lines have none, if the names have none.
* `split_table`: Cutting a table at line feeds gives its nine lines.
* `count_comma_entries`: Entries have two commas for each word.
* `count_comma_table`: A table has as many more than one without words.
* `getElem_frame_ne`: Eight of the lines are the same for all entries.
* `words_eq_of_getElem_frame`: The seventh line tells the words.
* `render_nine_lines`: The table of a header is nine lines, of which only one
  depends on it.
-/

namespace KeywordTable

/-- The nine lines of a table with these entries. -/
def Template.frame (template : Template) (entries : String) : List String := [
  "",
  "#include \"" ++ template.header ++ "\"",
  "",
  "#include <map>",
  "#include <string>",
  "const static std::map<std::string, " ++ template.enumType ++ "> " ++ template.tableName
    ++ " = \x7b",
  "  " ++ entries,
  "\x7d;",
  ""]

/-- A table is its nine lines, each ended by a line feed. -/
theorem Template.table_eq (template : Template) (words : List Word) :
    (template.table words).toList =
      ((template.frame (Word.entries words)).map String.toList).flatMap (· ++ ['\n']) := by
  have hend : "\n".toList = ['\n'] := by decide
  have hempty : "".toList = [] := by decide
  have hout : String.ofList (List.replicate 0 ' ') = "" := by decide
  have hdeep : String.ofList (List.replicate 2 ' ') = "  " := by decide
  rw [table, Layout.render, steps]
  -- The block goes one level in and back out, and its one line stands between.
  simp only [Layout.addAll, Layout.add, Layout.addBlank, Layout.addLine, Layout.deeper,
    Layout.back, Nat.zero_add, Nat.le_refl, if_pos, Nat.sub_self, hout, hdeep]
  simp only [frame, List.map_cons, List.map_nil, List.flatMap_cons, List.flatMap_nil,
    String.toList_append, hend, hempty, List.append_assoc, List.nil_append, List.append_nil]

/-- A word of a header has no line feed, since it is part of a line. -/
theorem Markers.newline_not_mem_of_mem_words {markers : Markers} {source : String} {word : Word}
    (h : word ∈ markers.words source) : '\n' ∉ word.chars := by
  rcases exists_line_of_mem_words h with ⟨line, hline, hword⟩
  intro hmem
  exact Text.not_mem_of_mem_lines _ line hline (Word.mem_of_mem_ofLine hword hmem)

/-- Entries have a line feed only from a word. -/
theorem Word.newline_not_mem_entries {words : List Word} (h : ∀ word ∈ words, '\n' ∉ word.chars) :
    '\n' ∉ (Word.entries words).toList := by
  rw [toList_entries]
  intro hmem
  rcases List.mem_flatMap.mp hmem with ⟨piece, hpiece, hmem⟩
  -- The line feed is not the comma after the piece, so it is in the piece.
  rcases List.mem_append.mp hmem with hmem | hcomma
  · exact not_mem_of_mem_pieces (by decide) (by decide) h piece hpiece hmem
  · exact absurd hcomma (by decide)

/-- Entries have two commas for each word. -/
theorem Word.count_comma_entries (words : List Word) :
    (Word.entries words).toList.count ',' = 2 * words.length := by
  have hcut := Text.length_split ',' (Word.entries words).toList
  rw [length_pieces] at hcut
  omega

namespace Template

/-- The nine lines have no line feed, if the names and the entries have none. -/
theorem newline_not_mem_frame {template : Template} {entries : String}
    (hheader : '\n' ∉ template.header.toList) (henum : '\n' ∉ template.enumType.toList)
    (hname : '\n' ∉ template.tableName.toList) (hentries : '\n' ∉ entries.toList) :
    ∀ line ∈ (template.frame entries).map String.toList, '\n' ∉ line := by
  simp only [frame, List.map_cons, List.map_nil, List.forall_mem_cons, String.toList_append,
    List.mem_append, hheader, henum, hname, hentries, or_false]
  decide

/-- Cutting a table at line feeds gives its nine lines and nothing after the
    last. -/
theorem split_table {template : Template} {words : List Word}
    (hheader : '\n' ∉ template.header.toList) (henum : '\n' ∉ template.enumType.toList)
    (hname : '\n' ∉ template.tableName.toList) (hwords : ∀ word ∈ words, '\n' ∉ word.chars) :
    Text.split '\n' (template.table words).toList =
      (template.frame (Word.entries words)).map String.toList ++ [[]] := by
  rw [table_eq]
  exact Text.split_terminated '\n' _ (newline_not_mem_frame hheader henum hname
    (Word.newline_not_mem_entries hwords))

/-- A table has two commas for each word, besides those that it has without any
    words. -/
theorem count_comma_table (template : Template) (words : List Word) :
    (template.table words).toList.count ',' =
      (template.table []).toList.count ',' + 2 * words.length := by
  have hempty : (Word.entries []).toList.count ',' = 0 := Word.count_comma_entries []
  rw [table_eq, table_eq]
  -- The lines are the same but for the entries, which are on one of them.
  simp only [frame, List.map_cons, List.map_nil, List.flatMap_cons, List.flatMap_nil,
    String.toList_append, List.count_append, Word.count_comma_entries, hempty]
  omega

/-- The entries are on the seventh line. -/
theorem getElem_frame_six (template : Template) (entries : String) :
    ((template.frame entries).map String.toList ++ [[]])[6]? = some ("  " ++ entries).toList := rfl

/-- The other lines are the same for all entries. -/
theorem getElem_frame_ne (template : Template) (entries entries' : String) (i : Nat)
    (hi : i ≠ 6) :
    ((template.frame entries).map String.toList ++ [[]])[i]? =
      ((template.frame entries').map String.toList ++ [[]])[i]? := by
  -- Other entries are another seventh line in the same list.
  have hset : (template.frame entries').map String.toList ++ [[]] =
      ((template.frame entries).map String.toList ++ [[]]).set 6 ("  " ++ entries').toList := rfl
  rw [hset, List.getElem?_set_ne (fun h => hi h.symm)]

/-- Tables that agree on the seventh line have the same words. -/
theorem words_eq_of_getElem_frame (template : Template) {vs ws : List Word}
    (h : ((template.frame (Word.entries vs)).map String.toList ++ [[]])[6]? =
      ((template.frame (Word.entries ws)).map String.toList ++ [[]])[6]?) : vs = ws := by
  rw [getElem_frame_six, getElem_frame_six, Option.some.injEq, String.toList_append,
    String.toList_append] at h
  exact Word.entries_injective (String.toList_injective (List.append_cancel_left h))

end Template

/-- If the names chosen for it have no line feed, the table of a header is nine
    lines and nothing after them. Eight of the lines are the same for every
    header. The seventh has the entries of its words, with two commas for each,
    and tells the words, so two headers make the same table exactly if they have
    the same words. -/
theorem Settings.render_nine_lines (settings : Settings) (source : String)
    (hheader : '\n' ∉ settings.template.header.toList)
    (henum : '\n' ∉ settings.template.enumType.toList)
    (hname : '\n' ∉ settings.template.tableName.toList) :
    Text.split '\n' (settings.render source).2.toList =
      (settings.template.frame (Word.entries (settings.markers.words source))).map String.toList
        ++ [[]] ∧
    ("  " ++ Word.entries (settings.markers.words source)).toList.count ',' =
      2 * (settings.render source).1.length ∧
    ∀ source' : String,
      (∀ i, i ≠ 6 → (Text.split '\n' (settings.render source).2.toList)[i]? =
        (Text.split '\n' (settings.render source').2.toList)[i]?) ∧
      ((settings.render source).2 = (settings.render source').2 ↔
        settings.markers.words source = settings.markers.words source') := by
  have hlines : ∀ s : String, Text.split '\n' (settings.render s).2.toList =
      (settings.template.frame (Word.entries (settings.markers.words s))).map String.toList
        ++ [[]] := fun s =>
    Template.split_table hheader henum hname fun _ => Markers.newline_not_mem_of_mem_words
  -- Cut at line feeds, tables can be compared line by line.
  refine ⟨hlines source, ?_, fun source' => ⟨fun i hi => ?_, fun hcode => ?_, fun hwords => ?_⟩⟩
  · have hblank : "  ".toList.count ',' = 0 := by decide
    rw [String.toList_append, List.count_append, hblank, Nat.zero_add, Word.count_comma_entries]
    rfl
  · rw [hlines, hlines]
    exact Template.getElem_frame_ne _ _ _ i hi
  · refine Template.words_eq_of_getElem_frame settings.template ?_
    rw [← hlines, ← hlines, hcode]
  · change settings.template.table _ = settings.template.table _
    rw [hwords]

/-- A word with a lone carriage return and a line separator in it, and a letter
    that is lowered to two characters, leave the table nine lines. -/
theorem Settings.render_nine_lines_separators :
    ('\n' ∉ ({} : Template).header.toList ∧ '\n' ∉ ({} : Template).enumType.toList ∧
      '\n' ∉ ({} : Template).tableName.toList) ∧
    Text.split '\n' (({ input := .ofText "token.h", output := .ofText "table.h" } : Settings).render
      "Keyword\r\nA\rB\u2028C,\n\u0130F\nTEOF").2.toList =
        ["", "#include \"token.h\"", "", "#include <map>", "#include <string>",
          "const static std::map<std::string, TokenType> str2token = \x7b",
          "  \x7b \"a\rb\u2028c\", A\rB\u2028C \x7d,\x7b \"i\u0307f\", \u0130F \x7d,",
          "\x7d;", ""].map String.toList ++ [[]] :=
  ⟨by decide, (Settings.render_nine_lines _ _ (by decide) (by decide) (by decide)).1.trans
    (by decide +kernel)⟩

end KeywordTable
