import KeywordTable.Proofs.Store
import KeywordTable.Proofs.World

/-!
# One Directory in Two Stores

The files of one directory can be kept on a disk or in memory, and whoever asks
for them by their names cannot tell which. Both do what a plain map from names
to texts does, the `Folder`, and that is all that is to be said: a store that
does as a folder for each single request does so for every run, and then two
such stores answer alike.

A generation is not a request of its own. It reads and then writes, so what a
store does for those two is enough, and it makes no difference if the input is
also the output.

What limits the theorem is what only a disk knows. A name must be one that a disk
can have, no directory may have it, and no text may be larger than is read.
Within these limits nothing can fail except to find a file that is not there,
and both stores say of that that it was not found. What else they say of it is
different.

## Main definitions

* `FileName`: A name that a file can have on a disk.
* `Folder`: The texts of a directory under their names.
* `FileStep`: Something that is asked of the files in a directory.
* `Outcome`: What is learned from a step.
* `FileStep.ask`: Asks the host.
* `Folder.perform`: What a folder does.
* `Implements`: A store does what a folder does.
* `Disk.Holds`, `Memory.Holds`: The store has the files of a folder.

## Theorems

* `gives_ask`: A store that does as a folder does so for each step.
* `gives_asks`: It does so for every run.
* `Disk.find_name`, `Disk.target_name`: A name leads to a file in the directory.
* `Disk.implements`, `Memory.implements`: Both stores do as a folder.
* `stores_agree`: Both stores give the same answers and end alike.
-/

namespace KeywordTable

/-- A name that a file can have on a disk. -/
@[ext]
structure FileName where
  chars : List Char
  nonempty : chars ≠ []
  no_slash : '/' ∉ chars
  no_null : '\x00' ∉ chars
  not_dot : chars ≠ ['.']
  not_dots : chars ≠ ['.', '.']
  short : (String.ofList chars).utf8ByteSize ≤ Disk.maxName
  deriving DecidableEq

namespace FileName

/-- The path that is only this name. -/
def path (name : FileName) : Path := ⟨name.chars⟩

theorem route_path (name : FileName) :
    name.path.route = { absolute := false, names := [name.chars] } :=
  Path.route_piece name.nonempty name.no_slash

/-- Names are told apart by the routes of their paths. -/
theorem route_path_inj {name other : FileName} :
    name.path.route = other.path.route ↔ name = other := by
  constructor
  · intro h
    rw [route_path, route_path, Route.mk.injEq] at h
    exact FileName.ext (List.cons.inj h.2).1
  · rintro rfl
    rfl

end FileName

/-- What kind of failure callers are told of. -/
inductive ErrorKind where
  | notFound
  | notADirectory
  | isADirectory
  | invalidFilename
  | invalidInput
  | invalidData
  | other
  deriving Repr, DecidableEq

/-- The kind of a fault. -/
def Fault.kind : Fault → ErrorKind
  | missing => .notFound
  | notDirectory => .notADirectory
  | isDirectory => .isADirectory
  | nameTooLong => .invalidFilename
  | nullInPath => .invalidInput
  | notText => .invalidData
  | other _ => .other

/-- The kind of a file error. -/
def FileError.kind : FileError → ErrorKind
  | absent _ => .notFound
  | tooLarge _ => .other
  | failed _ _ fault => fault.kind

/-- What is learned from a step. -/
inductive Outcome where
  | found (isFile : Bool)
  | text (text : String)
  | written
  | generated (table : Generated)
  /-- A file could not be read or written. -/
  | failed (kind : ErrorKind)
  /-- The input of a generation could not be read. -/
  | inputFailed (path : Path) (kind : ErrorKind)
  /-- The output of a generation could not be written. -/
  | outputFailed (path : Path) (kind : ErrorKind)

namespace Outcome

/-- The kind of the failure, if it is one. -/
def kind? : Outcome → Option ErrorKind
  | failed kind | inputFailed _ kind | outputFailed _ kind => some kind
  | found _ | text _ | written | generated _ => none

/-- What is learned from reading. -/
def ofRead : Except FileError String → Outcome
  | .ok s => text s
  | .error e => failed e.kind

/-- What is learned from writing. -/
def ofWrite : Except FileError Unit → Outcome
  | .ok () => written
  | .error e => failed e.kind

/-- What is learned from a generation. -/
def ofGenerate : Except GenerateError Generated → Outcome
  | .ok table => generated table
  | .error (.read path e) => inputFailed path e.kind
  | .error (.write path e) => outputFailed path e.kind

end Outcome

/-- The settings with an input and an output in the directory. -/
def Settings.within (settings : Settings) (input output : FileName) : Settings :=
  { settings with input := input.path, output := output.path }

/-- Something that is asked of the files in a directory. -/
inductive FileStep where
  | isFile (name : FileName)
  | read (name : FileName)
  | write (name : FileName) (text : String)
  /-- A generation from one file into another, or into the same. -/
  | generate (settings : Settings) (input output : FileName)

namespace FileStep

/-- The names that the step is about. -/
def names : FileStep → List FileName
  | isFile name | read name | write name _ => [name]
  | generate _ input output => [input, output]

/-- Asks the host. -/
def ask {m : Type → Type} [Monad m] [Host m] : FileStep → m Outcome
  | isFile name => do return .found (← Host.isFile name.path)
  | read name => do return .ofRead (← Host.read name.path)
  | write name text => do return .ofWrite (← Host.write name.path text)
  | generate settings input output => do
    return .ofGenerate (← KeywordTable.generate (settings.within input output))

end FileStep

/-- The texts of a directory under their names. -/
abbrev Folder := FileName → Option String

namespace Folder

/-- The folder with a text replaced. -/
def set (files : Folder) (name : FileName) (text : String) : Folder :=
  fun other => if other = name then some text else files other

/-- All texts can be read. -/
def Readable (files : Folder) : Prop :=
  ∀ name text, files name = some text → text.utf8ByteSize ≤ FileError.maxSize

theorem Readable.set {files : Folder} (h : files.Readable) (name : FileName) {text : String}
    (hsize : text.utf8ByteSize ≤ FileError.maxSize) : (files.set name text).Readable := by
  intro other found hfound
  rw [Folder.set] at hfound
  by_cases hname : other = name
  · rw [if_pos hname] at hfound
    rwa [← Option.some.inj hfound]
  · rw [if_neg hname] at hfound
    exact h other found hfound

/-- What a folder does: what is learned from a step, and the folder after it. -/
def perform (files : Folder) : FileStep → Outcome × Folder
  | .isFile name => (.found (files name).isSome, files)
  | .read name =>
    match files name with
    | some text => (.text text, files)
    | none => (.failed .notFound, files)
  | .write name text => (.written, files.set name text)
  | .generate settings input output =>
    match files input with
    | some source =>
      let (words, code) := settings.render source
      (.generated { words, code, output := output.path }, files.set output code)
    | none => (.inputFailed input.path .notFound, files)

/-- The folder after a step. -/
def next (files : Folder) (step : FileStep) : Folder :=
  (files.perform step).2

/-- The folder at first and after each of some steps. -/
def states (files : Folder) (steps : List FileStep) : List Folder :=
  steps.scanl next files

/-- The folder after some steps. -/
def after (files : Folder) (steps : List FileStep) : Folder :=
  steps.foldl next files

/-- What is learned from some steps. -/
def answers (files : Folder) : List FileStep → List Outcome
  | [] => []
  | step :: steps => (files.perform step).1 :: (files.next step).answers steps

/-- A folder fails only to find a file. -/
theorem kind_perform {files : Folder} {step : FileStep} {kind : ErrorKind}
    (h : (files.perform step).1.kind? = some kind) : kind = .notFound := by
  cases step with
  | isFile name => cases h
  | read name =>
      simp only [perform] at h
      cases hname : files name with
      | none =>
          rw [hname] at h
          exact (Option.some.inj h).symm
      | some text =>
          rw [hname] at h
          cases h
  | write name text => cases h
  | generate settings input output =>
      simp only [perform] at h
      cases hinput : files input with
      | none =>
          rw [hinput] at h
          exact (Option.some.inj h).symm
      | some source =>
          rw [hinput] at h
          cases h

theorem kind_of_mem_answers {files : Folder} {steps : List FileStep} {outcome : Outcome}
    {kind : ErrorKind} (hmem : outcome ∈ files.answers steps) (h : outcome.kind? = some kind) :
    kind = .notFound := by
  induction steps generalizing files with
  | nil => cases hmem
  | cons step steps ih =>
      rcases List.mem_cons.mp hmem with rfl | hmem
      · exact kind_perform h
      · exact ih hmem

end Folder

/-- A store does what a folder does, for the names that are `used`. Which folder
    it stands for is told by the relation `R`. -/
structure Implements {σ : Type} [FileStore σ] (R : σ → Folder → Prop)
    (used : FileName → Prop) : Prop where
  isFile_eq : ∀ {s files name}, R s files → used name →
    FileStore.isFile s name.path = (files name).isSome
  read_some : ∀ {s files name text}, R s files → used name → files name = some text →
    text.utf8ByteSize ≤ FileError.maxSize → FileStore.read s name.path = .ok text
  read_none : ∀ {s files name}, R s files → used name → files name = none →
    ∃ e : FileError, FileStore.read s name.path = .error e ∧ e.kind = .notFound
  write_ok : ∀ {s files name} (text : String), R s files → used name →
    ∃ s', FileStore.write s name.path text = .ok s' ∧ R s' (files.set name text)

section Run

variable {σ : Type} [FileStore σ] {R : σ → Folder → Prop} {used : FileName → Prop}

/-- A store that does as a folder does so for each step. -/
theorem gives_ask (himpl : Implements R used) {s : σ} {files : Folder} (hs : R s files)
    {step : FileStep} (hused : ∀ name ∈ step.names, used name) (hread : files.Readable) :
    ∃ s', Gives step.ask s (files.perform step).1 s' ∧ R s' (files.next step) := by
  cases step with
  | isFile name =>
      have hname := hused name List.mem_cons_self
      refine ⟨s, ?_, hs⟩
      rw [Folder.perform, ← himpl.isFile_eq hs hname]
      exact gives_bind (gives_isFile name.path s) (gives_pure _ s)
  | read name =>
      have hname := hused name List.mem_cons_self
      have hgives := gives_read name.path s
      simp only [Folder.next, Folder.perform]
      cases hfile : files name with
      | none =>
          obtain ⟨e, herror, hkind⟩ := himpl.read_none hs hname hfile
          rw [herror] at hgives
          rw [← hkind]
          exact ⟨s, gives_bind hgives (gives_pure _ s), hs⟩
      | some text =>
          rw [himpl.read_some hs hname hfile (hread name text hfile)] at hgives
          exact ⟨s, gives_bind hgives (gives_pure _ s), hs⟩
  | write name text =>
      obtain ⟨s', hwrite, hs'⟩ := himpl.write_ok text hs (hused name List.mem_cons_self)
      exact ⟨s', gives_bind (gives_write_ok hwrite) (gives_pure _ s'), hs'⟩
  | generate settings input output =>
      have hinput := hused input List.mem_cons_self
      have houtput := hused output (List.mem_cons_of_mem _ List.mem_cons_self)
      have hgives := (settings.within input output).gives_generate s
      simp only [Folder.next, Folder.perform]
      cases hfile : files input with
      | none =>
          -- What cannot be read ends the generation before anything is written.
          obtain ⟨e, herror, hkind⟩ := himpl.read_none hs hinput hfile
          rw [Settings.generateIn_of_read_error _ herror] at hgives
          rw [← hkind]
          exact ⟨s, gives_bind hgives (gives_pure _ s), hs⟩
      | some source =>
          -- Reading is done when writing starts, so the two may be one file.
          have hok := himpl.read_some hs hinput hfile (hread input source hfile)
          obtain ⟨s', hwrite, hs'⟩ := himpl.write_ok (settings.render source).2 hs houtput
          rw [Settings.generateIn_of_write_ok (settings.within input output) hok hwrite] at hgives
          exact ⟨s', gives_bind hgives (gives_pure _ s'), hs'⟩

/-- A store that does as a folder does so for every run. -/
theorem gives_asks (himpl : Implements R used) {s : σ} {files : Folder} (hs : R s files)
    {steps : List FileStep} (hused : ∀ step ∈ steps, ∀ name ∈ step.names, used name)
    (hread : ∀ state ∈ files.states steps, state.Readable) :
    ∃ s', Gives (steps.mapM FileStep.ask) s (files.answers steps) s' ∧
      R s' (files.after steps) := by
  induction steps generalizing s files with
  | nil => exact ⟨s, gives_pure [] s, hs⟩
  | cons step steps ih =>
      rw [Folder.states, List.scanl_cons] at hread
      -- The store after the step stands for the next folder, which is where the rest starts.
      obtain ⟨s₁, hgives, hs₁⟩ := gives_ask himpl hs (hused step List.mem_cons_self)
        (hread files List.mem_cons_self)
      obtain ⟨s₂, hrest, hs₂⟩ := ih hs₁
        (fun later hlater => hused later (List.mem_cons_of_mem step hlater))
        (fun state hstate => hread state (List.mem_cons_of_mem files hstate))
      exact ⟨s₂, gives_mapM_cons hgives hrest, hs₂⟩

end Run

/-- The bytes of a node, if it is a file. -/
def DiskNode.bytes? : DiskNode → Option ByteArray
  | directory => none
  | file bytes => some bytes

namespace Disk

/-- The directory in which relative paths start has the files of a folder. It may
    have directories too. -/
structure Holds (d : Disk) (files : Folder) : Prop where
  directory : d.node? d.cwd = some .directory
  bytes_eq : ∀ name : FileName,
    (d.node? (name.chars :: d.cwd)).bind DiskNode.bytes? = (files name).map String.toUTF8

/-- No directory has the name. -/
def Free (d : Disk) (name : FileName) : Prop :=
  d.node? (name.chars :: d.cwd) ≠ some .directory

section Names

variable {d : Disk} (hcwd : d.node? d.cwd = some .directory) (name : FileName)

theorem names_path : names name.path = [name.chars] := by
  rw [names, FileName.path, Text.split_eq_splitOn, List.splitOn_eq_singleton name.no_slash]
  exact List.filter_cons_of_pos (bne_iff_ne.mpr name.nonempty)

theorem start_path : d.start name.path = d.cwd := by
  rw [start, FileName.path, Path.isAbsolute_eq_false name.no_slash, if_neg Bool.false_ne_true]

/-- A name is short enough for a path. -/
theorem refuse_path : refuse? name.path = none := by
  have hlong : ¬ pathLimit ≤ name.path.text.utf8ByteSize := by
    have hshort : name.path.text.utf8ByteSize ≤ maxName := name.short
    have hlimit : maxName < pathLimit := by decide
    omega
  rw [refuse?, if_neg (show '\x00' ∉ name.path.chars from name.no_null),
    if_neg (show name.path.chars ≠ [] from name.nonempty), if_neg hlong]

theorem endsInSlash_path : endsInSlash name.path = false := by
  rw [endsInSlash, beq_eq_false_iff_ne]
  exact fun hlast => name.no_slash (List.mem_of_getLast? hlast)

include hcwd

theorem step_name : d.step d.cwd name.chars = .ok (name.chars :: d.cwd) := by
  rw [step, hcwd]
  simp only [if_neg name.not_dot, if_neg name.not_dots, if_neg (Nat.not_lt.mpr name.short)]

/-- A name leads to what is in the directory under it. -/
theorem find_name : d.find name.path =
    match d.node? (name.chars :: d.cwd) with
    | none => .error .missing
    | some node => .ok node := by
  rw [find, refuse_path, names_path, start_path, follow_cons, step_name hcwd, endsInSlash_path]
  simp only [bind, Except.bind, follow, List.foldlM_nil, pure, Except.pure]
  cases d.node? (name.chars :: d.cwd) with
  | none => rfl
  | some node =>
      cases node with
      | directory => rfl
      | file bytes => rfl

/-- A file can be written under a name that no directory has. -/
theorem target_name (hnode : d.Free name) :
    d.target name.path = .ok (name.chars :: d.cwd) := by
  have hend : ¬ (name.chars = ['.'] ∨ name.chars = ['.', '.'] ∨ endsInSlash name.path = true) := by
    rw [endsInSlash_path, not_or, not_or]
    exact ⟨name.not_dot, name.not_dots, Bool.false_ne_true⟩
  rw [target, refuse_path, names_path, start_path]
  simp only [List.getLast?_singleton, List.dropLast_singleton, if_neg hend, follow,
    List.foldlM_nil, pure, Except.pure, bind, Except.bind, step_name hcwd]
  split
  · next hdirectory => exact absurd hdirectory hnode
  · rfl

end Names

/-- What stands under a name that no directory has. -/
theorem Holds.node_eq {d : Disk} {files : Folder} (h : d.Holds files) {name : FileName}
    (hnode : d.Free name) :
    d.node? (name.chars :: d.cwd) = (files name).map fun text => .file text.toUTF8 := by
  have hbytes := h.bytes_eq name
  cases hfound : d.node? (name.chars :: d.cwd) with
  | none =>
      rw [hfound, Option.bind_none] at hbytes
      rw [Option.map_eq_none_iff.mp hbytes.symm, Option.map_none]
  | some node =>
      cases node with
      | directory => exact absurd hfound hnode
      | file bytes =>
          rw [hfound] at hbytes
          obtain ⟨text, hfile, htext⟩ := Option.map_eq_some_iff.mp hbytes.symm
          rw [hfile, Option.map_some, htext]

/-- Writing a file changes the folder under its name. -/
theorem Holds.put {d : Disk} {files : Folder} (h : d.Holds files) (name : FileName)
    (text : String) :
    (d.put (name.chars :: d.cwd) (.file text.toUTF8)).Holds (files.set name text) := by
  have hnode := d.node_put (List.cons_ne_nil name.chars d.cwd) (.file text.toUTF8)
  constructor
  · change (d.put (name.chars :: d.cwd) (.file text.toUTF8)).node? d.cwd = _
    rw [hnode, if_neg (List.cons_ne_self name.chars d.cwd).symm, h.directory]
  · intro other
    change ((d.put (name.chars :: d.cwd) (.file text.toUTF8)).node? (other.chars :: d.cwd)).bind
      DiskNode.bytes? = _
    rw [hnode, Folder.set]
    by_cases hname : other = name
    · rw [if_pos hname, hname, if_pos rfl]
      rfl
    · have hplace : other.chars :: d.cwd ≠ name.chars :: d.cwd := by
        intro hcons
        exact hname (FileName.ext (List.cons.inj hcons).1)
      rw [if_neg hplace, if_neg hname]
      exact h.bytes_eq other

/-- A disk does as a folder, for the names that none of its directories has. No
    step makes a directory, so these names stay the same. -/
theorem implements (used : FileName → Prop) :
    Implements (fun (d : Disk) files => d.Holds files ∧ ∀ name, used name → d.Free name)
      used where
  isFile_eq := by
    rintro d files name ⟨h, hfree⟩ hused
    change d.isFile name.path = _
    rw [isFile, find_name h.directory, h.node_eq (hfree name hused)]
    cases files name with
    | none => rfl
    | some text => rfl
  read_some := by
    rintro d files name text ⟨h, hfree⟩ hused hfile hsize
    have hfind := find_name h.directory name
    rw [h.node_eq (hfree name hused), hfile] at hfind
    -- The size is looked at before the bytes, and both are those of the text.
    have hsmall : ¬ FileError.maxSize < text.toUTF8.size := Nat.not_lt.mpr hsize
    have hutf8 : String.fromUTF8? text.toUTF8 = some text := dif_pos text.isValidUTF8
    change d.read name.path = _
    simp only [read, size, load, hfind, Option.map_some, FileError.checkSize, if_neg hsmall,
      bind, Except.bind, hutf8]
  read_none := by
    rintro d files name ⟨h, hfree⟩ hused hfile
    have hfind := find_name h.directory name
    rw [h.node_eq (hfree name hused), hfile] at hfind
    refine ⟨.failed .query name.path .missing, ?_, rfl⟩
    change d.read name.path = _
    simp only [read, size, hfind]
    rfl
  write_ok := by
    rintro d files name text ⟨h, hfree⟩ hused
    have htarget := target_name h.directory name (hfree name hused)
    refine ⟨d.put (name.chars :: d.cwd) (.file text.toUTF8), ?_, h.put name text, ?_⟩
    · change d.write name.path text = _
      rw [write, htarget]
    · intro other hother
      change (d.put (name.chars :: d.cwd) (.file text.toUTF8)).node? (other.chars :: d.cwd) ≠ _
      rw [d.node_put (List.cons_ne_nil name.chars d.cwd)]
      split
      · exact nofun
      · exact hfree other hother

end Disk

namespace Memory

/-- The memory has the files of a folder, and no others. -/
structure Holds (m : Memory) (files : Folder) : Prop where
  get_eq : ∀ name : FileName, m.get? name.path = files name
  named : ∀ p : Path, (m.get? p).isSome = true → ∃ name : FileName, p.route = name.path.route

theorem Holds.write {m : Memory} {files : Folder} (h : m.Holds files) (name : FileName)
    (text : String) : (m.write name.path text).Holds (files.set name text) := by
  constructor
  · intro other
    rw [get_write, Folder.set, h.get_eq]
    simp only [FileName.route_path_inj]
  · intro p hp
    rw [get_write] at hp
    by_cases hroute : p.route = name.path.route
    · exact ⟨name, hroute⟩
    · rw [if_neg hroute] at hp
      exact h.named p hp

/-- Memory does as a folder, for all names. -/
theorem implements (used : FileName → Prop) : Implements Holds used where
  isFile_eq := by
    intro m files name h _
    change (m.get? name.path).isSome = _
    rw [h.get_eq]
  read_some := by
    intro m files name text h _ hfile _
    change m.read name.path = _
    rw [read, h.get_eq, hfile]
  read_none := by
    intro m files name h _ hfile
    refine ⟨.absent name.path, ?_, rfl⟩
    change m.read name.path = _
    rw [read, h.get_eq, hfile]
  write_ok := by
    intro m files name text h _
    exact ⟨m.write name.path text, rfl, h.write name text⟩

end Memory

/-- A disk and a memory with the files of one directory give the same answers to
    any steps by name, and nothing fails but to find a file. In the end both have
    the same files, those of the folder that the steps make. This is for names
    that no directory has, and as long as no text is too large to be read. -/
theorem stores_agree (files : Folder) (steps : List FileStep) (w : World Disk) (v : World Memory)
    (hdisk : w.store.Holds files) (hmemory : v.store.Holds files)
    (hnames : ∀ step ∈ steps, ∀ name ∈ step.names, w.store.Free name)
    (hread : ∀ state ∈ files.states steps, state.Readable) :
    let onDisk := (steps.mapM FileStep.ask : Simulated Disk (List Outcome)).run w
    let inMemory := (steps.mapM FileStep.ask : Simulated Memory (List Outcome)).run v
    onDisk.1 = inMemory.1 ∧
    (∀ outcome ∈ onDisk.1, ∀ kind, outcome.kind? = some kind → kind = .notFound) ∧
    onDisk.2.store.Holds (files.after steps) ∧ inMemory.2.store.Holds (files.after steps) := by
  intro onDisk inMemory
  obtain ⟨d, hgives, hd, -⟩ := gives_asks (Disk.implements w.store.Free)
    ⟨hdisk, fun _ hname => hname⟩ hnames hread
  obtain ⟨m, hgives', hm⟩ := gives_asks (Memory.implements fun _ => True) hmemory
    (fun _ _ _ _ => trivial) hread
  have honDisk : onDisk.1 = files.answers steps ∧ onDisk.2.store = d := hgives w rfl
  have hinMemory : inMemory.1 = files.answers steps ∧ inMemory.2.store = m := hgives' v rfl
  rw [honDisk.1, hinMemory.1, honDisk.2, hinMemory.2]
  exact ⟨rfl, fun _ hmem _ => Folder.kind_of_mem_answers hmem, hd, hm⟩

namespace Shared

/-- A header in a directory. -/
def header : FileName :=
  ⟨"token.h".toList, by decide, by decide, by decide, by decide, by decide, by decide +kernel⟩

/-- A file that is not there. -/
def missing : FileName :=
  ⟨"no file".toList, by decide, by decide, by decide, by decide, by decide, by decide +kernel⟩

/-- The text of the header, with one keyword. -/
def source : String := "Keyword\nIF, 1\nTEOF\n"

/-- The header is the only file. -/
def files : Folder := Folder.set (fun _ => none) header source

/-- The directory is not the root, and has a directory in it. -/
def disk : Disk :=
  let d : Disk :=
    { nodes := [(["lib".toList, "src".toList], .directory), (["src".toList], .directory)]
      cwd := ["src".toList] }
  d.put (header.chars :: d.cwd) (.file source.toUTF8)

/-- The same file in memory, stored by a write. -/
def memory : Memory := ({} : Memory).write header.path source

/-- Settings whose paths are replaced by those of a generation. -/
def settings : Settings := { input := .ofText "", output := .ofText "" }

/-- The header is replaced by its own table, before a generation that fails. -/
def steps : List FileStep :=
  [.generate settings header header, .generate settings missing header]

theorem disk_holds : disk.Holds files := by
  refine Disk.Holds.put ⟨rfl, fun name => ?_⟩ header source
  simp only [Disk.node?, reduceCtorEq, if_false, List.lookup_cons, List.lookup_nil,
    Option.map_none]
  -- Both nodes are directories, whichever of them has the name.
  split
  · rfl
  · split
    · rfl
    · rfl

theorem memory_holds : memory.Holds files := by
  refine Memory.Holds.write ⟨fun _ => rfl, fun p hp => ?_⟩ header source
  exact absurd hp Bool.false_ne_true

/-- All that the steps ever store can be read. -/
theorem readable : ∀ state ∈ files.states steps, state.Readable := by
  have hempty : Folder.Readable fun _ => none := by
    intro name text h
    cases h
  have hfiles : files.Readable := hempty.set header (by decide +kernel)
  have hsource : files header = some source := by
    rw [files, Folder.set, if_pos rfl]
  have htable : (files.set header (settings.render source).2).Readable :=
    hfiles.set header (by decide +kernel)
  have hmissing : files.set header (settings.render source).2 missing = none := by
    have hne : missing ≠ header := by decide +kernel
    rw [Folder.set, if_neg hne, files, Folder.set, if_neg hne]
  -- The first step stores a table. The second finds no input and stores nothing.
  have hfirst : files.next (.generate settings header header) =
      files.set header (settings.render source).2 := by
    simp only [Folder.next, Folder.perform, hsource]
  have hsecond : (files.set header (settings.render source).2).next
      (.generate settings missing header) = files.set header (settings.render source).2 := by
    simp only [Folder.next, Folder.perform, hmissing]
  rw [Folder.states, steps, List.scanl_cons, List.scanl_cons, List.scanl_nil, hfirst, hsecond]
  intro state hstate
  rcases List.mem_cons.mp hstate with rfl | hstate
  · exact hfiles
  · rcases List.mem_cons.mp hstate with rfl | hstate
    · exact htable
    · rw [List.mem_singleton.mp hstate]
      exact htable

theorem free : ∀ step ∈ steps, ∀ name ∈ step.names, disk.Free name := by
  have hheader : disk.Free header := by
    have hnode : disk.node? (header.chars :: disk.cwd) = some (.file source.toUTF8) := rfl
    rw [Disk.Free, hnode]
    exact nofun
  have hmissing : disk.Free missing := by
    have hnode : disk.node? (missing.chars :: disk.cwd) = none := rfl
    rw [Disk.Free, hnode]
    exact nofun
  simp only [steps, List.forall_mem_cons, FileStep.names]
  exact ⟨⟨hheader, hheader, nofun⟩, ⟨hmissing, hheader, nofun⟩, nofun⟩

theorem stores_agree_shared :
    disk.Holds files ∧ memory.Holds files ∧
    (∀ step ∈ steps, ∀ name ∈ step.names, disk.Free name) ∧
    (∀ state ∈ files.states steps, state.Readable) ∧
    let onDisk := (steps.mapM FileStep.ask : Simulated Disk (List Outcome)).run { store := disk }
    let inMemory :=
      (steps.mapM FileStep.ask : Simulated Memory (List Outcome)).run { store := memory }
    onDisk.1 = inMemory.1 ∧
    (∀ outcome ∈ onDisk.1, ∀ kind, outcome.kind? = some kind → kind = .notFound) ∧
    onDisk.2.store.Holds (files.after steps) ∧ inMemory.2.store.Holds (files.after steps) :=
  ⟨disk_holds, memory_holds, free, readable,
    stores_agree files steps { store := disk } { store := memory } disk_holds memory_holds free
      readable⟩

end Shared

end KeywordTable
