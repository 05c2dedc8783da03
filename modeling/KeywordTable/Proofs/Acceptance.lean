import KeywordTable.Proofs.Collisions
import KeywordTable.Proofs.Fitting

/-!
# Which Documents Are Settings Files

A text that is read as the lines of a document is a settings file if and only if
the lines fit, and then it sets what they give.

One way is short: the table that the lines make has what the lines give, so if
it can be read then they fit. For the other the table has to exist first. Lines
that fit have headers of one key only, since a longer one would put a table
where only a string can stand, and they have no arrays of tables. With such
headers a document fails only on a key that is given twice.

## Theorems

* `plain_of_fits`: The headers of a settings file have one key each.
* `fits_of_parse`: A text that is read fits and is read as what it gives.
* `exists_parse_of_clear`: A text that fits is read if no two of its parts give
  the same key.
* `exists_parse`: A text that fits and gives no key twice is read.
-/

namespace KeywordTable

open Toml (Content PathLayout Line Outline Part Statement Value Document Consistent)

/-- What a fact gives at the start of its path does not fit unless the path has
    one key. -/
theorem plain_of_fits {lines : List Line} (hfits : SettingsFile.Fits (Value.ofLines lines).Has)
    {part : Part} (hpart : part ∈ (Outline.ofLines lines).parts) (hne : part.path ≠ []) :
    part.Plain := by
  have hmem : (part.path, part.headed) ∈ Line.facts [] lines := by
    rw [Toml.facts_eq]
    refine List.mem_append_right _ (List.mem_flatMap.mpr ⟨part, hpart, ?_⟩)
    exact List.mem_cons_self
  have hthrough : ∀ q, q <+: part.path → q ≠ part.path → (Value.ofLines lines).Has q .table :=
    fun q hq hqne => .through hmem hq hqne
  have hend : ∀ c, part.headed.Has [] c → (Value.ofLines lines).Has part.path c := by
    intro c hc
    have hinside := Value.Has.inside hmem hc
    rwa [List.append_nil] at hinside
  rcases hpath : part.path with _ | ⟨name, _ | ⟨key, rest⟩⟩
  · exact absurd hpath hne
  · refine ⟨⟨name, hpath⟩, ?_⟩
    cases harray : part.isArray with
    | false => rfl
    | true =>
        have hheaded : part.headed = .tables := by rw [Part.headed, if_pos harray]
        have htables := hend .tables (by rw [hheaded]; exact .tables)
        rw [hpath] at htables
        rcases hfits name .tables htables with ⟨g, -, haccepts⟩
        exact haccepts.elim
  · exfalso
    rw [hpath] at hthrough hend
    -- There is a table where only the settings of a group can stand.
    have hsecond : ∃ c, (Value.ofLines lines).Has [name, key] c ∧ ∀ text, c ≠ .string text := by
      cases rest with
      | nil =>
          cases harray : part.isArray with
          | false =>
              refine ⟨.table, hend _ ?_, fun _ => Content.noConfusion⟩
              rw [Part.headed, if_neg (by rw [harray]; exact Bool.false_ne_true)]
              exact .table []
          | true =>
              refine ⟨.tables, hend _ ?_, fun _ => Content.noConfusion⟩
              rw [Part.headed, if_pos harray]
              exact .tables
      | cons next rest =>
          refine ⟨.table, hthrough _ ?_ ?_, fun _ => Content.noConfusion⟩
          · exact List.prefix_append [name, key] (next :: rest)
          · intro h
            cases h
    have hfirst : (Value.ofLines lines).Has [name] .table := by
      refine hthrough _ (List.prefix_append [name] (key :: rest)) ?_
      intro h
      cases h
    rcases hfits name .table hfirst with ⟨g, rfl, haccepts⟩
    rcases hsecond with ⟨c, hc, hne⟩
    rcases haccepts key c hc with ⟨-, text, htext⟩
    exact hne text htext

/-- A settings file is what it gives for each setting. -/
theorem SettingsFile.ext {file file' : SettingsFile}
    (h : ∀ s v, file.value? s = some v ↔ file'.value? s = some v) : file = file' := by
  have hvalue : file.value? = file'.value? := funext fun s => Option.ext (h s)
  exact congrArg SettingsFile.mk hvalue

section

variable {text : String} {statements : List Statement} {lines : List Line}
  (hread : Toml.statements text.toList = some statements)
include hread

/-- A text is read if its lines make a table that is read. -/
theorem parse_eq_ok_iff (file : SettingsFile) :
    SettingsFile.parse text = .ok file ↔ ∃ es, (Document.ofLines statements).entries? = some es ∧
      SettingsFile.ofEntries es = .ok file := by
  have hparse : Toml.parse? text.toList = (Document.ofLines statements).entries? := by
    unfold Toml.parse?
    rw [hread]
    rfl
  unfold SettingsFile.parse
  rw [hparse]
  cases (Document.ofLines statements).entries? with
  | none => exact iff_of_false (fun h => nomatch h) fun ⟨_, h, _⟩ => nomatch h
  | some es =>
      simp only [Option.some.injEq, exists_eq_left']
      cases SettingsFile.ofEntries es with
      | error p => exact iff_of_false (fun h => nomatch h) fun h => nomatch h
      | ok file' =>
          have hok : (Except.ok file').mapError (ParseError.problem text) = .ok file' := rfl
          rw [hok, Except.ok.injEq, Except.ok.injEq]

variable (hlines : List.Forall₂ Statement.Agrees statements lines)
include hlines

/-- A text that is read fits, and is read as what it gives. -/
theorem fits_of_parse {file : SettingsFile} (h : SettingsFile.parse text = .ok file) :
    SettingsFile.Fits (Value.ofLines lines).Has ∧
      ∀ s v, file.value? s = some v ↔ s.Given (Value.ofLines lines).Has v := by
  rcases (parse_eq_ok_iff hread file).mp h with ⟨es, hes, hfile⟩
  have hagrees := Toml.agrees_entries (Toml.agrees_ofLines hlines) hes
  have hdistinct := fun origin span =>
    ((Toml.agrees_table_iff origin es span _).mpr hagrees).distinct
  have hfits := (ofEntries_ok_iff hdistinct).mp ⟨file, hfile⟩
  refine ⟨(fits_layout_iff hagrees).mp hfits, fun s v => ?_⟩
  rw [value_ofEntries hdistinct hfile, gives_layout_iff hagrees hfits]

omit hread in
/-- The headers of a text that fits have one key each. -/
theorem plain_parts (hfits : SettingsFile.Fits (Value.ofLines lines).Has) :
    ∀ part ∈ (Outline.ofLines lines).parts, part.Plain := by
  intro part hpart
  rcases Toml.exists_of_mem_right (Toml.agrees_ofLines hlines).sections hpart with ⟨s, hs⟩
  exact plain_of_fits hfits hpart (hs.names ▸ Toml.names_ne_nil s.header.path)

/-- A text that fits is read if no two parts of it give the same key. -/
theorem exists_parse_of_clear (hfits : SettingsFile.Fits (Value.ofLines lines).Has)
    (hclear : (Outline.ofLines lines).Clear []) : ∃ file, SettingsFile.parse text = .ok file := by
  have hdoc := Toml.agrees_ofLines hlines
  rcases Toml.exists_entries hdoc hclear (plain_parts hlines hfits) with ⟨es, hes⟩
  have hagrees := Toml.agrees_entries hdoc hes
  have hdistinct := fun origin span =>
    ((Toml.agrees_table_iff origin es span _).mpr hagrees).distinct
  rcases (ofEntries_ok_iff hdistinct).mpr ((fits_layout_iff hagrees).mpr hfits) with ⟨file, hfile⟩
  exact ⟨file, (parse_eq_ok_iff hread file).mpr ⟨es, hes, hfile⟩⟩

/-- A text that fits and gives no key twice is read. -/
theorem exists_parse (hfits : SettingsFile.Fits (Value.ofLines lines).Has)
    (hconsistent : Consistent lines) : ∃ file, SettingsFile.parse text = .ok file := by
  have hsingle : ∀ path, Line.header path true ∉ lines := by
    intro path hmem
    rcases Toml.exists_part_of_mem hmem with ⟨part, hpart, harray⟩
    rw [(plain_parts hlines hfits part hpart).2] at harray
    cases harray
  exact exists_parse_of_clear hread hlines hfits (Toml.clear_ofLines (hconsistent hsingle))

end

end KeywordTable
