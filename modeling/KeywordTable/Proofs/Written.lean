import KeywordTable.Proofs.Acceptance
import KeywordTable.Proofs.Reading

/-!
# Writing Down a Settings File

Every settings file can be written down and read back. The text has a section
for each group that has a value, and in it a line for each setting that does.
Nothing else about it is fixed: an `Arrangement` is an order of the groups, an
order of the settings in each group, and a spelling of each text, where a
character may stand for itself or be escaped in any way that the format has for
it. A control character can only be escaped, so a spelling takes care of that.

The way back does not look at the reader again. The text is a document of the
format, its lines have a table under the name of each group that was written and
a string under the name of each setting, and no key is given twice. So it is
read, and what is read is what the lines give. Since an order of the settings
holds each of them once, the lines give exactly the values of the file.

## Main definitions

* `Arrangement`: How a settings file is written down.
* `SettingsFile.document`: The file as it is written.
* `SettingsFile.lines`: What the lines of that text say.
* `Part.lines`: The lines of a part of a document.

## Theorems

* `outline_parts`: Lines of parts make these parts.
* `isDocument_groups`: What is written is a document of the format.
* `has_setting_iff`: What stands under the name of a setting is its value.
* `fits_lines`, `given_lines_iff`: What is written fits and gives the values.
* `clear_lines`: No key is written twice.
* `parse_document`: What is written is read back.
-/

namespace KeywordTable

open Toml (Content PathLayout Line Outline Part Value Spelling IsDocument IsLine maxDepth)

/-- How a settings file is written down: in which order the groups and the
    settings of each come, and how each text is spelled. -/
structure Arrangement where
  groups : List SettingGroup
  settings : SettingGroup → List Setting
  spelling : Setting → (text : String) → Spelling text
  groups_perm : groups.Perm SettingGroup.all
  settings_perm : ∀ g, (settings g).Perm g.settings

instance : Inhabited Arrangement where
  default := {
    groups := SettingGroup.all
    settings := SettingGroup.settings
    spelling := fun _ _ => default
    groups_perm := .rfl
    settings_perm := fun _ => .rfl }

/-- The line that gives a setting its text. -/
def Arrangement.line (a : Arrangement) (w : Setting × String) : List Char :=
  w.1.name.toList ++ (" = \"".toList ++ ((a.spelling w.1 w.2).body ++ "\"\n".toList))

namespace SettingsFile

variable (file : SettingsFile) (a : Arrangement)

/-- The settings of a group that have a value, with it. -/
def given (g : SettingGroup) : List (Setting × String) :=
  (a.settings g).filterMap fun s => (file.value? s).map fun text => (s, text)

/-- The groups that have a setting with a value. -/
def givenGroups : List SettingGroup :=
  a.groups.filter fun g => !(file.given a g).isEmpty

/-- A group as it is written: the line with its name, and a line for each of its
    settings that has a value. -/
def groupText (g : SettingGroup) : List Char :=
  '[' :: (g.name.toList ++ ("]\n".toList ++ (file.given a g).flatMap a.line))

/-- The file as it is written. Groups without values are left out. -/
def document : String :=
  .ofList ((file.givenGroups a).flatMap (file.groupText a))

example : (SettingsFile.mk fun s => if s = .output then some "a\"\n" else none).document default =
    "[paths]\noutput = \"a\\\"\\u000a\"\n" := by
  decide +kernel

/-- What the lines of a group say. -/
def part (g : SettingGroup) : Part where
  path := [g.name]
  isArray := false
  pairs := (file.given a g).map fun w => ([w.1.name], .string w.2)

end SettingsFile

namespace Toml

/-- The lines of a part. -/
def Part.lines (part : Part) : List Line :=
  .header part.path part.isArray :: part.pairs.map fun w => .pair w.1 w.2

theorem outline_pairs (ws : List (List String × Value)) (lines : List Line) :
    Outline.ofLines (ws.map (fun w => .pair w.1 w.2) ++ lines) =
      { Outline.ofLines lines with pairs := ws ++ (Outline.ofLines lines).pairs } := by
  induction ws with
  | nil => rfl
  | cons w ws ih =>
      rw [List.map_cons, List.cons_append, Outline.ofLines, ih]
      rfl

/-- The parts that the lines of parts make are those parts. -/
theorem outline_parts (parts : List Part) :
    Outline.ofLines (parts.flatMap Part.lines) = { pairs := [], parts } := by
  induction parts with
  | nil => rfl
  | cons part parts ih =>
      rw [List.flatMap_cons, Part.lines, List.cons_append, Outline.ofLines, outline_pairs, ih,
        List.append_nil]

/-- Each part gives what it gives at the end of its path. -/
theorem has_parts_iff (parts : List Part) (q : List String) (c : Content) :
    (Value.ofLines (parts.flatMap Part.lines)).Has q c ↔
      (q = [] ∧ c = .table) ∨ ∃ part ∈ parts, PathLayout.below part.path part.layout q c := by
  have hnone : ¬ PathLayout.pairs [] q c := fun ⟨_, hw, _⟩ => absurd hw List.not_mem_nil
  rw [has_ofLines_iff, outline_parts, or_iff_right hnone]
  simp only [below_layout_iff]

end Toml

open Toml (Apart isPath_name isDocument_line)

/-! ### The lines -/

theorem name_group_bare (g : SettingGroup) : g.name.toList ≠ [] ∧
    ∀ c ∈ g.name.toList, c.isAlphanum = true ∨ c = '_' ∨ c = '-' := by
  cases g <;> exact ⟨by decide, Toml.forall_of_all (by decide +kernel)⟩

theorem name_setting_bare (s : Setting) : s.name.toList ≠ [] ∧
    ∀ c ∈ s.name.toList, c.isAlphanum = true ∨ c = '_' ∨ c = '-' := by
  cases s <;> exact ⟨by decide, Toml.forall_of_all (by decide +kernel)⟩

section

variable {a : Arrangement} {rest : List Char} {lines : List Line}

theorem isLine_setting (a : Arrangement) (w : Setting × String) :
    IsLine maxDepth (w.1.name.toList ++ (" = \"".toList ++ ((a.spelling w.1 w.2).body ++ ['"'])))
      (.pair [w.1.name] (.string w.2)) := by
  have hblank : Toml.Blank [' '] := fun c hc => Or.inl (List.mem_singleton.mp hc)
  have hpath := isPath_name (name_setting_bare w.1).1 (name_setting_bare w.1).2 hblank
  have hline := IsLine.pair (.mk hpath (Nat.le_add_left 1 78) hblank
    (Toml.isValue_spelling maxDepth (a.spelling w.1 w.2)))
  rwa [List.append_assoc] at hline

theorem isLine_group (g : SettingGroup) :
    IsLine maxDepth ('[' :: (g.name.toList ++ [']'])) (.header [g.name] false) := by
  have hpath := isPath_name (name_group_bare g).1 (name_group_bare g).2 Toml.blank_nil
  rw [List.append_nil] at hpath
  exact .header Toml.blank_nil hpath (Nat.le_add_left 1 78)

theorem isDocument_settings (ws : List (Setting × String)) (h : IsDocument maxDepth rest lines) :
    IsDocument maxDepth (ws.flatMap a.line ++ rest)
      (ws.map (fun w => .pair [w.1.name] (.string w.2)) ++ lines) := by
  induction ws with
  | nil => exact h
  | cons w ws ih =>
      have hdocument := isDocument_line (isLine_setting a w) ih
      simp only [List.flatMap_cons, Arrangement.line, List.append_assoc] at hdocument ⊢
      exact hdocument

theorem isDocument_groups (file : SettingsFile) (a : Arrangement) (groups : List SettingGroup) :
    IsDocument maxDepth (groups.flatMap (file.groupText a))
      ((groups.map (file.part a)).flatMap Part.lines) := by
  induction groups with
  | nil => exact .done (.blank Toml.blank_nil)
  | cons g groups ih =>
      have hsettings := isDocument_settings (a := a) (file.given a g) ih
      have hdocument := isDocument_line (isLine_group g) hsettings
      simp only [List.flatMap_cons, List.map_cons, SettingsFile.groupText, SettingsFile.part,
        Part.lines, List.map_map, List.append_assoc, List.cons_append] at hdocument ⊢
      exact hdocument

end

/-! ### What is written -/

namespace SettingsFile

variable (file : SettingsFile) (a : Arrangement)

/-- All that the file says, line by line. -/
def lines : List Line :=
  ((file.givenGroups a).map (file.part a)).flatMap Part.lines

variable {file a}

theorem mem_given {g : SettingGroup} {w : Setting × String} :
    w ∈ file.given a g ↔ w.1.group = g ∧ file.value? w.1 = some w.2 := by
  simp only [given, List.mem_filterMap, Option.map_eq_some_iff, (a.settings_perm g).mem_iff,
    mem_settings_iff]
  constructor
  · rintro ⟨s, hs, text, htext, rfl⟩
    exact ⟨hs, htext⟩
  · rintro ⟨hs, htext⟩
    exact ⟨w.1, hs, w.2, htext, rfl⟩

theorem mem_givenGroups {g : SettingGroup} : g ∈ file.givenGroups a ↔ ∃ w, w ∈ file.given a g := by
  have hall : g ∈ a.groups := by
    rw [a.groups_perm.mem_iff]
    cases g <;> decide
  rw [givenGroups, List.mem_filter, and_iff_right hall, Bool.not_eq_true',
    List.isEmpty_eq_false_iff]
  exact ⟨List.exists_mem_of_ne_nil _, fun ⟨w, hw⟩ => List.ne_nil_of_mem hw⟩

/-- A key of the file is the name of a group with a value. -/
theorem has_lines_iff {name : String} {q : List String} {c : Content} :
    (Value.ofLines (file.lines a)).Has (name :: q) c ↔
      ∃ g ∈ file.givenGroups a, g.name = name ∧ (file.part a g).layout q c := by
  have hnot : ¬ (name :: q = [] ∧ c = .table) := fun h => List.cons_ne_nil name q h.1
  rw [lines, Toml.has_parts_iff, or_iff_right hnot]
  constructor
  · rintro ⟨part, hpart, hbelow⟩
    rcases List.mem_map.mp hpart with ⟨g, hg, rfl⟩
    exact ⟨g, hg, hbelow.1.symm, hbelow.2⟩
  · rintro ⟨g, hg, hname, hlayout⟩
    exact ⟨file.part a g, List.mem_map_of_mem hg, hname.symm, hlayout⟩

theorem part_layout_iff {g : SettingGroup} {q : List String} {c : Content} :
    (file.part a g).layout q c ↔ (q = [] ∧ c = .table) ∨
      ∃ w ∈ file.given a g, PathLayout.below [w.1.name] (Value.string w.2).Has q c := by
  have hheaded : (file.part a g).headed.Has q c ↔ q = [] ∧ c = .table := by
    have hnone : ¬ PathLayout.pairs [] q c := fun ⟨_, hw, _⟩ => absurd hw List.not_mem_nil
    exact (Toml.has_table_iff [] q c).trans (or_iff_left hnone)
  refine or_congr hheaded ?_
  simp only [PathLayout.pairs, part, List.mem_map, exists_exists_and_eq_and]

/-- What stands under the name of a group is a table. -/
theorem has_group {name : String} {c : Content}
    (h : (Value.ofLines (file.lines a)).Has [name] c) :
    c = .table ∧ ∃ g : SettingGroup, g.name = name := by
  rcases has_lines_iff.mp h with ⟨g, -, hname, hlayout⟩
  rcases part_layout_iff.mp hlayout with ⟨-, hc⟩ | ⟨w, -, hc⟩
  · exact ⟨hc, g, hname⟩
  · exact ⟨hc, g, hname⟩

/-- What stands under the name of a setting is the text that the file has for
    it. -/
theorem has_setting_iff {g : SettingGroup} {key : String} {c : Content} :
    (Value.ofLines (file.lines a)).Has [g.name, key] c ↔
      ∃ s text, s.group = g ∧ s.name = key ∧ file.value? s = some text ∧ c = .string text := by
  rw [has_lines_iff]
  constructor
  · rintro ⟨g', -, hname, hlayout⟩
    rcases part_layout_iff.mp hlayout with ⟨hnil, -⟩ | ⟨w, hw, hkey, hc⟩
    · cases hnil
    · rcases mem_given.mp hw with ⟨hgroup, htext⟩
      cases hc
      exact ⟨w.1, w.2, hgroup.trans (SettingGroup.name_injective hname), hkey.symm, htext, rfl⟩
  · rintro ⟨s, text, hgroup, rfl, htext, rfl⟩
    have hw : (s, text) ∈ file.given a g := mem_given.mpr ⟨hgroup, htext⟩
    exact ⟨g, mem_givenGroups.mpr ⟨_, hw⟩, rfl,
      part_layout_iff.mpr (Or.inr ⟨_, hw, rfl, .string text⟩)⟩

/-- What was written fits. -/
theorem fits_lines : Fits (Value.ofLines (file.lines a)).Has := by
  intro name c h
  rcases has_group h with ⟨rfl, g, rfl⟩
  refine ⟨g, rfl, fun key c hkey => ?_⟩
  rcases has_setting_iff.mp hkey with ⟨s, text, hgroup, hname, -, hc⟩
  exact ⟨⟨s, (mem_settings_iff g s).mpr hgroup, hname⟩, text, hc⟩

/-- What was written gives every setting its value. -/
theorem given_lines_iff (s : Setting) (text : String) :
    s.Given (Value.ofLines (file.lines a)).Has text ↔ file.value? s = some text := by
  constructor
  · rintro (h | ⟨texts, i, h, -⟩)
    · rcases has_setting_iff.mp h with ⟨s', text', hgroup, hname, hvalue, hc⟩
      rw [Content.string.inj hc, ← Setting.name_injective hgroup hname]
      exact hvalue
    · exact nomatch (has_group h).1
  · intro h
    exact Or.inl (has_setting_iff.mpr ⟨s, text, rfl, rfl, h, rfl⟩)

/-- No name of a setting comes twice in a group. -/
theorem apart_given (g : SettingGroup) :
    (file.part a g).pairs.Pairwise fun w w' => Apart w.1 w'.1 := by
  have hnames : ((a.settings g).map Setting.name).Nodup := by
    rw [((a.settings_perm g).map Setting.name).nodup_iff]
    cases g <;> decide
  -- Settings without a value are left out, and that makes no name come twice.
  rw [part, given, List.pairwise_map, List.pairwise_filterMap]
  refine (List.pairwise_map.mp hnames).imp fun hne w hw w' hw' => ?_
  rcases Option.map_eq_some_iff.mp hw with ⟨_, -, rfl⟩
  rcases Option.map_eq_some_iff.mp hw' with ⟨_, -, rfl⟩
  exact Toml.apart_singleton hne

/-- What was written gives no key twice. -/
theorem clear_lines : (Outline.ofLines (file.lines a)).Clear [] := by
  rw [lines, Toml.outline_parts]
  refine ⟨.nil, fun part hpart => ?_, ?_, fun _ _ _ hw => absurd hw List.not_mem_nil⟩
  · rcases List.mem_map.mp hpart with ⟨g, -, rfl⟩
    exact apart_given g
  · have hnodup : (file.givenGroups a).Nodup :=
      (a.groups_perm.nodup_iff.mpr (by decide)).filter _
    rw [List.map_map]
    refine List.pairwise_map.mpr (hnodup.imp fun hne hname => hne ?_)
    exact SettingGroup.name_injective (List.head_eq_of_cons_eq hname)

end SettingsFile

open SettingsFile in
/-- Every settings file can be written down and read back, in any order of its
    groups and settings and in any spelling of its texts. -/
theorem parse_document (file : SettingsFile) (a : Arrangement) :
    SettingsFile.parse (file.document a) = .ok file := by
  have hdocument : IsDocument maxDepth (file.document a).toList (file.lines a) := by
    rw [document, String.toList_ofList]
    exact isDocument_groups file a (file.givenGroups a)
  rcases Toml.exists_statements hdocument with ⟨statements, hread, hlines⟩
  -- What is read is determined by what the lines give.
  rcases exists_parse_of_clear hread hlines fits_lines clear_lines with ⟨file', hfile'⟩
  have heq : file' = file := by
    refine SettingsFile.ext fun s text => ?_
    rw [(fits_of_parse hread hlines hfile').2, given_lines_iff]
  rw [hfile', heq]

end KeywordTable
