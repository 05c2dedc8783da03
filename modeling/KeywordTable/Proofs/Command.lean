import KeywordTable.Proofs.Store
import KeywordTable.Proofs.World

/-!
# All or Nothing

A run can fail in many places: while its settings are looked for, loaded, parsed
and resolved, while the header is read, and while the output is opened. None of
them has stored anything yet, so a run that fails leaves the disk exactly as it
was. What comes after the one write cannot fail.

A run that succeeds has changed one place, and all that it needed was read
before. So it makes no difference whether the output was there, and neither
whether it was the header itself or the settings file: the table is that of the
header as it was found.

## Main definitions

* `Disk.Replaced`: A disk with one file replaced.
* `Arguments.FailsBy`: What a failed run is to blame on.

## Theorems

* `Disk.write_eq_error`: Writing fails if there is no place for the file.
* `Disk.replaced_write`: Writing replaces one file.
* `Arguments.run_all_or_nothing`: A run replaces one file or none.
-/

namespace KeywordTable

open Terminal (Console)

namespace Disk

/-- The disk `d'` is `d` with the file that `p` leads to replaced by one with
    the given text. It was a file before or was not there, and the directory
    around it was. -/
structure Replaced (d d' : Disk) (p : Path) (text : String) : Prop where
  cwd_eq : d'.cwd = d.cwd
  find_eq : d'.find p = .ok (.file text.toUTF8)
  node_eq : ∃ name dir, d.target p = .ok (name :: dir) ∧ d.node? dir = some .directory ∧
    d.node? (name :: dir) ≠ some .directory ∧
    ∀ q, d'.node? q = if q = name :: dir then some (.file text.toUTF8) else d.node? q

/-- Writing fails if there is no place for the file. -/
theorem write_eq_error {d : Disk} {p : Path} {text : String} {e : FileError}
    (h : d.write p text = .error e) :
    ∃ fault, d.target p = .error fault ∧ e = .failed .create p fault := by
  unfold write at h
  cases htarget : d.target p with
  | error fault =>
      rw [htarget] at h
      exact ⟨fault, rfl, (Except.error.inj h).symm⟩
  | ok place =>
      rw [htarget] at h
      exact nomatch h

/-- Writing replaces one file. -/
theorem replaced_write {d d' : Disk} {p : Path} {text : String} (h : d.write p text = .ok d') :
    Replaced d d' p text := by
  unfold write at h
  cases htarget : d.target p with
  | error fault =>
      rw [htarget] at h
      exact nomatch h
  | ok place =>
      rw [htarget] at h
      obtain rfl := Except.ok.inj h
      obtain ⟨-, -, -, hnode, hne, hdir⟩ := target_eq_ok htarget
      refine ⟨rfl, find_put_target htarget _, ?_⟩
      cases place with
      | nil => exact absurd rfl hne
      | cons name dir => exact ⟨name, dir, htarget, hdir, hnode, node_put d hne _⟩

end Disk

namespace Arguments

/-- What a run that failed is to blame on, where `found` is what came of looking
    for its settings. -/
def FailsBy (d : Disk) (found : Except SettingsError Settings) : RunError → Prop
  | .settings e => found = .error e
  | .generate (.read p e) =>
    ∃ settings, found = .ok settings ∧ settings.input = p ∧ d.read p = .error e
  | .generate (.write p e) =>
    ∃ settings source fault, found = .ok settings ∧ d.read settings.input = .ok source ∧
      settings.output = p ∧ d.target p = .error fault ∧ e = .failed .create p fault

/-- A run that fails leaves the disk exactly as it was, and fails only because
    there are no settings, the header cannot be read or the output cannot be
    created. A run that succeeds leaves the disk with the output replaced by the
    table of the header that it found, and everything else as it was. -/
theorem run_all_or_nothing (args : Arguments) (cwd : Path) (console : Console) (w : World Disk) :
    let found := ((Settings.find cwd (args.path? .config) args.overrides :
      Simulated Disk (Except SettingsError Settings)).run w).1
    let after := (args.run cwd console : Simulated Disk (Except RunError Unit)).run w
    match after.1 with
    | .error e => after.2.store = w.store ∧ FailsBy w.store found e
    | .ok () => ∃ settings source, found = .ok settings ∧
        w.store.read settings.input = .ok source ∧
        w.store.Replaced after.2.store settings.output (settings.render source).2 := by
  intro found after
  have hfound : found = Settings.findIn w.store cwd (args.path? .config) args.overrides :=
    (Settings.gives_find cwd (args.path? .config) args.overrides w.store w rfl).1
  have hanswer : after.1 = (args.runIn cwd w.store).1 :=
    (gives_run args cwd console w.store w rfl).1
  have hstore : after.2.store = (args.runIn cwd w.store).2 :=
    (gives_run args cwd console w.store w rfl).2
  rw [hanswer, hstore, hfound]
  simp only [runIn, Settings.generateIn]
  -- The run can end at four points, and only the last of them is after the write.
  cases Settings.findIn w.store cwd (args.path? .config) args.overrides with
  | error e => exact ⟨rfl, rfl⟩
  | ok settings =>
      simp only []
      cases hread : FileStore.read w.store settings.input with
      | error e => exact ⟨rfl, settings, rfl, rfl, hread⟩
      | ok source =>
          simp only []
          cases hwrite : FileStore.write w.store settings.output (settings.render source).2 with
          | error e =>
              obtain ⟨fault, htarget, he⟩ := Disk.write_eq_error hwrite
              exact ⟨rfl, settings, source, fault, rfl, hread, rfl, htarget, he⟩
          | ok d' => exact ⟨settings, source, rfl, hread, Disk.replaced_write hwrite⟩

-- The table may take the place of the settings file that says where to write it.
example :
    let d : Disk :=
      { nodes := [(["kwgen.toml".toList], .file "[paths]\noutput = \"kwgen.toml\"\n".toUTF8),
          (["token.h".toList], .file "Keyword\nIF, 1\nTEOF\n".toUTF8)] }
    let after := (({} : Arguments).run (.ofText "/") ⟨fun _ => false⟩ :
      Simulated Disk (Except RunError Unit)).run { store := d }
    after.1.toOption = some () ∧
    (after.2.store.load (.ofText "/kwgen.toml")).toOption =
      some (({ input := .ofText "", output := .ofText "" } : Settings).render
        "Keyword\nIF, 1\nTEOF\n").2 := by
  decide +kernel

end Arguments

end KeywordTable
