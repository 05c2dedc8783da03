import KeywordTable.Proofs.Store
import KeywordTable.Proofs.World

/-!
# The One File That Counts

Settings come from one file or from none. Which file that is depends on what is
a file and what is not, along the way from the place of the run outwards and no
further than to the first file found. What the settings are then depends on the
text of that file.

So if the same paths were found to be files or not, up to the chosen one, and the
chosen file holds the same, there are the same settings or the same error. That
is so among files of any kind, and on two disks it is enough that the chosen file
has the same bytes. Other settings files may be there or not, and may hold
anything. In particular nothing is ever taken from a file further out, or
from the settings that are built in, because the chosen file is of no use.

## Main definitions

* `Settings.consulted`: The paths that are looked at to choose a file.
* `Settings.MadeFrom`: The settings are those of a file.

## Theorems

* `Settings.resolve_eq_ok_iff`: What resolved settings are made of.
* `Settings.chosen_congr`: The choice depends on the paths looked at.
* `Settings.findIn_congr`: Settings depend on the choice and on one text.
* `Settings.find_congr`: So do runs, whatever kind of files they are among.
* `Settings.ofLoaded_eq_ok_iff`: When a file makes settings.
* `Settings.findIn_eq_ok_iff`: When there are settings.
* `Settings.find_depends_on_chosen`: Settings depend on one file.
-/

namespace KeywordTable

namespace Settings

/-- Resolved settings are those of the file, each on its own, and name no
    file. -/
theorem resolve_eq_ok_iff {file : SettingsFile} {base cwd : Path} {overrides : Overrides}
    {settings : Settings} :
    resolve file base cwd overrides = .ok settings ↔
      Setting.input.path file base cwd overrides.input = .ok settings.input ∧
      Setting.output.path file base cwd overrides.output = .ok settings.output ∧
      file.get .opening = .ok settings.markers.opening ∧
      file.get .closing = .ok settings.markers.closing ∧
      file.get .header = .ok settings.template.header ∧
      file.get .enumType = .ok settings.template.enumType ∧
      file.get .tableName = .ok settings.template.tableName ∧ settings.file = none := by
  constructor
  · intro h
    obtain ⟨input, hinput, h⟩ := exists_of_bind_eq_ok h
    obtain ⟨output, houtput, h⟩ := exists_of_bind_eq_ok h
    obtain ⟨opening, hopening, h⟩ := exists_of_bind_eq_ok h
    obtain ⟨closing, hclosing, h⟩ := exists_of_bind_eq_ok h
    obtain ⟨header, hheader, h⟩ := exists_of_bind_eq_ok h
    obtain ⟨enumType, henumType, h⟩ := exists_of_bind_eq_ok h
    obtain ⟨tableName, htableName, h⟩ := exists_of_bind_eq_ok h
    obtain rfl := Except.ok.inj h
    exact ⟨hinput, houtput, hopening, hclosing, hheader, henumType, htableName, rfl⟩
  · rintro ⟨hinput, houtput, hopening, hclosing, hheader, henumType, htableName, hfile⟩
    rw [resolve, hinput, houtput, hopening, hclosing, hheader, henumType, htableName]
    simp only [bind, Except.bind, pure, Except.pure, ← hfile]

theorem file_eq_none_of_resolve {file : SettingsFile} {base cwd : Path} {overrides : Overrides}
    {settings : Settings} (h : resolve file base cwd overrides = .ok settings) :
    settings.file = none := by
  obtain ⟨-, -, -, -, -, -, -, hfile⟩ := resolve_eq_ok_iff.mp h
  exact hfile

section Choice

variable {σ τ : Type} [FileStore σ] [FileStore τ]

/-- The paths that are looked at to choose a file: the one that was asked for,
    or else the candidates up to and with the first that is a file. -/
def consulted (s : σ) (cwd : Path) (explicit : Option Path) : List Path :=
  match explicit with
  | some path => [cwd.join path]
  | none =>
    let candidates := cwd.candidates (.ofText fileName)
    candidates.take (candidates.findIdx (FileStore.isFile s) + 1)

/-- Tests that agree up to the first hit of one have the same first hit. -/
theorem find_congr_take {α : Type} {xs : List α} {p q : α → Bool}
    (h : ∀ x ∈ xs.take (xs.findIdx p + 1), p x = q x) : xs.find? p = xs.find? q := by
  induction xs with
  | nil => rfl
  | cons x xs ih =>
      have hx : p x = q x := h x (by rw [List.take_succ_cons]; exact List.mem_cons_self)
      rw [List.find?_cons, List.find?_cons, ← hx]
      cases hp : p x with
      | true => rfl
      | false =>
          -- No hit yet for either, and the tests agree one place further.
          refine ih fun y hy => h y ?_
          rw [List.findIdx_cons, hp, cond_false, List.take_succ_cons]
          exact List.mem_cons_of_mem x hy

/-- The choice depends on the paths that are looked at. -/
theorem chosen_congr {s : σ} {t : τ} {cwd : Path} {explicit : Option Path}
    (h : ∀ p ∈ consulted s cwd explicit, FileStore.isFile s p = FileStore.isFile t p) :
    chosen? s cwd explicit = chosen? t cwd explicit := by
  cases explicit with
  | some path => rfl
  | none => exact find_congr_take h

/-- Whether the chosen path is a file was looked at too. -/
theorem isFile_congr_of_chosen {s : σ} {t : τ} {cwd p : Path} {explicit : Option Path}
    (h : ∀ p ∈ consulted s cwd explicit, FileStore.isFile s p = FileStore.isFile t p)
    (hp : chosen? s cwd explicit = some p) : FileStore.isFile s p = FileStore.isFile t p := by
  have hp' := hp
  rw [chosen_congr h] at hp'
  cases explicit with
  | some path => exact h p (List.mem_singleton.mpr (Option.some.inj hp).symm)
  | none => rw [List.find?_some hp, List.find?_some hp']

/-- Among files that agree on the choice and on what the chosen file holds, the
    settings are the same. -/
theorem findIn_congr {s : σ} {t : τ} {cwd : Path} {explicit : Option Path}
    (hfiles : ∀ p ∈ consulted s cwd explicit, FileStore.isFile s p = FileStore.isFile t p)
    (hload : ∀ p ∈ chosen? s cwd explicit, FileStore.isFile s p = true →
      FileStore.load s p = FileStore.load t p) (overrides : Overrides) :
    findIn s cwd explicit overrides = findIn t cwd explicit overrides := by
  unfold findIn
  rw [← chosen_congr hfiles]
  cases hp : chosen? s cwd explicit with
  | none => rfl
  | some p =>
      -- Only a path that was asked for can be chosen and be no file.
      simp only [← isFile_congr_of_chosen hfiles hp]
      cases hfile : FileStore.isFile s p with
      | false => rfl
      | true => rw [hload p hp hfile]

/-- Two runs find the same settings or fail with the same error, if their files
    agree on the choice and on what the chosen file holds. The files may be of
    two kinds. -/
theorem find_congr {w : World σ} {w' : World τ} {cwd : Path} {explicit : Option Path}
    (hfiles : ∀ p ∈ consulted w.store cwd explicit,
      FileStore.isFile w.store p = FileStore.isFile w'.store p)
    (hload : ∀ p ∈ chosen? w.store cwd explicit, FileStore.isFile w.store p = true →
      FileStore.load w.store p = FileStore.load w'.store p) (overrides : Overrides) :
    ((find cwd explicit overrides : Simulated σ (Except SettingsError Settings)).run w).1 =
      ((find cwd explicit overrides : Simulated τ (Except SettingsError Settings)).run w').1 := by
  rw [(gives_find cwd explicit overrides w.store w rfl).1,
    (gives_find cwd explicit overrides w'.store w' rfl).1]
  exact findIn_congr hfiles hload overrides

end Choice

/-- A file makes settings if it has a text, the text can be parsed and the
    values can be resolved. The settings name the file. -/
theorem ofLoaded_eq_ok_iff {path cwd : Path} {overrides : Overrides}
    {loaded : Except FileError String} {settings : Settings} :
    ofLoaded path cwd overrides loaded = .ok settings ↔
      ∃ text file, loaded = .ok text ∧ SettingsFile.parse text = .ok file ∧
        resolve file (path.parent?.getD cwd) cwd overrides = .ok { settings with file := none } ∧
        settings.file = some path := by
  cases loaded with
  | error e => exact iff_of_false (fun h => nomatch h) (fun ⟨_, _, h, _⟩ => nomatch h)
  | ok text =>
      simp only [ofLoaded, ofText, Except.ok.injEq, exists_and_left, exists_eq_left']
      cases hparse : SettingsFile.parse text with
      | error e => exact iff_of_false (fun h => nomatch h) (fun ⟨_, h, _⟩ => nomatch h)
      | ok file =>
          simp only [Except.ok.injEq, exists_eq_left']
          have hrest : ∀ k : SettingsFile → Except SettingsError Settings,
              ((Except.ok file).mapError (.unparsable path) >>= k) = k file := fun _ => rfl
          rw [hrest]
          -- Resolving leaves the file open, and only then is it named.
          constructor
          · intro h
            obtain ⟨resolved, hresolved, h⟩ := exists_of_bind_eq_ok h
            obtain rfl := Except.ok.inj h
            have hnone := file_eq_none_of_resolve hresolved
            exact ⟨by rw [hresolved, ← hnone], rfl⟩
          · rintro ⟨hresolved, hfile⟩
            rw [hresolved, ← hfile]
            rfl

/-- The settings are those of the file at a path. -/
def MadeFrom (d : Disk) (p cwd : Path) (overrides : Overrides) (settings : Settings) : Prop :=
  ∃ bytes text file, d.bytes? p = some bytes ∧ String.fromUTF8? bytes = some text ∧
    SettingsFile.parse text = .ok file ∧
    resolve file (p.parent?.getD cwd) cwd overrides = .ok { settings with file := none } ∧
    settings.file = some p

/-- On a disk settings are found exactly if they are those of the chosen file,
    or there is none and they are the built-in ones. -/
theorem findIn_eq_ok_iff {d : Disk} {cwd : Path} {explicit : Option Path} {overrides : Overrides}
    {settings : Settings} :
    findIn d cwd explicit overrides = .ok settings ↔
      match chosen? d cwd explicit with
      | some p => MadeFrom d p cwd overrides settings
      | none => resolve .empty cwd cwd overrides = .ok settings := by
  unfold findIn
  cases chosen? d cwd explicit with
  | none => rfl
  | some p =>
      have hisFile : FileStore.isFile d p = (d.bytes? p).isSome := d.isFile_eq p
      simp only [hisFile, MadeFrom]
      cases hbytes : d.bytes? p with
      | none => exact iff_of_false (fun h => nomatch h) (fun ⟨_, _, _, h, _⟩ => nomatch h)
      | some bytes =>
          have hload : ∀ text, FileStore.load d p = .ok text ↔
              String.fromUTF8? bytes = some text := by
            intro text
            refine Disk.load_eq_ok_iff.trans ?_
            rw [hbytes]
            simp only [Option.some.injEq, exists_eq_left']
          simp only [Option.isSome_some, if_true, ofLoaded_eq_ok_iff, hload, Option.some.injEq,
            exists_and_left, exists_eq_left']

/-- The settings of a run depend on one file. On two disks that agree on which
    of the paths looked at are files, up to the chosen one, and on the bytes of
    the chosen file, a run finds the same settings or fails with the same error.
    It succeeds exactly if the chosen file can be read, parsed and resolved, or
    if there is no file to choose, and the settings name the chosen file. -/
theorem find_depends_on_chosen (w w' : World Disk) (cwd : Path) (explicit : Option Path)
    (overrides : Overrides)
    (hfiles : ∀ p ∈ consulted w.store cwd explicit, w.store.isFile p = w'.store.isFile p)
    (hbytes : ∀ p ∈ chosen? w.store cwd explicit, w.store.bytes? p = w'.store.bytes? p) :
    let run : Simulated Disk (Except SettingsError Settings) := find cwd explicit overrides
    (run.run w).1 = (run.run w').1 ∧
    (∀ settings, (run.run w).1 = .ok settings ↔
      match chosen? w.store cwd explicit with
      | some p => MadeFrom w.store p cwd overrides settings
      | none => resolve .empty cwd cwd overrides = .ok settings) ∧
    ∀ settings, (run.run w).1 = .ok settings → settings.file = chosen? w.store cwd explicit := by
  intro run
  have hrun : (run.run w).1 = findIn w.store cwd explicit overrides :=
    (gives_find cwd explicit overrides w.store w rfl).1
  -- The bytes of a file are all that loading it can depend on.
  have hload : ∀ p ∈ chosen? w.store cwd explicit, FileStore.isFile w.store p = true →
      FileStore.load w.store p = FileStore.load w'.store p := by
    intro p hp hfile
    have hsome : (w.store.bytes? p).isSome = true := (w.store.isFile_eq p).symm.trans hfile
    obtain ⟨bytes, hw⟩ := Option.isSome_iff_exists.mp hsome
    exact Disk.load_congr hw ((hbytes p hp).symm.trans hw)
  refine ⟨find_congr hfiles hload overrides, ?_⟩
  rw [hrun]
  refine ⟨fun _ => findIn_eq_ok_iff, ?_⟩
  intro settings hsettings
  have hmade := findIn_eq_ok_iff.mp hsettings
  cases hp : chosen? w.store cwd explicit with
  | none =>
      rw [hp] at hmade
      exact file_eq_none_of_resolve hmade
  | some p =>
      rw [hp] at hmade
      obtain ⟨_, _, _, _, _, _, _, hfile⟩ := hmade
      exact hfile

/-- A run in `/a/b` whose nearest settings file is malformed. There may be a
    good one further out, at the root, and it makes no difference. -/
theorem find_depends_on_malformed :
    let near : List (Place × DiskNode) :=
      [(["a".toList], .directory), (["b".toList, "a".toList], .directory),
        ([fileName.toList, "a".toList], .file "[paths".toUTF8)]
    let far : Place × DiskNode := ([fileName.toList], .file "".toUTF8)
    let cwd := Path.ofText "/a/b"
    let d : Disk := { nodes := far :: near }
    let d' : Disk := { nodes := near }
    let run : Simulated Disk (Except SettingsError Settings) := find cwd none {}
    (∀ p ∈ consulted d cwd none, d.isFile p = d'.isFile p) ∧
    (∀ p ∈ chosen? d cwd none, d.bytes? p = d'.bytes? p) ∧
    chosen? d cwd none = some (.ofText "/a/kwgen.toml") ∧
    d.isFile (.ofText "/kwgen.toml") = true ∧ d'.isFile (.ofText "/kwgen.toml") = false ∧
    (run.run { store := d }).1 = (run.run { store := d' }).1 ∧
    (run.run { store := d }).1.toOption = none := by
  intro near far cwd d d' run
  have hfiles : ∀ p ∈ consulted d cwd none, d.isFile p = d'.isFile p := by decide +kernel
  have hbytes : ∀ p ∈ chosen? d cwd none, d.bytes? p = d'.bytes? p := by decide +kernel
  have hsame := find_depends_on_chosen { store := d } { store := d' } cwd none {} hfiles hbytes
  exact ⟨hfiles, hbytes, by decide +kernel, by decide +kernel, by decide +kernel, hsame.1,
    by decide +kernel⟩

end Settings

end KeywordTable
