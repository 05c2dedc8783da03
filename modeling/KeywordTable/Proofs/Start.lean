import KeywordTable.Proofs.Choice

/-!
# Where a Run Is Started

A run may be started anywhere below its settings file. It then writes the path
of the file in its own way, with as many slashes and dots as the path of its
directory has, but the route is the same, and so is the route of the directory
around the file. All that the settings take from the place of the run is joined
to that directory, so they lead to the same places.

The directory that paths are taken from is the parent of the file. Every path to
a file has one, unless the root or the empty path were a file. If they are not,
the directory in which the run was started never takes the parent's place.

What has to be known of the files is little, and `FileStore.Routed` is all: two
paths to files that have the same route lead to the same text, and a path to a
file has a name on its way. It follows if being a file and having a text depend
on the route alone. Files in memory are of that kind. Files on a disk are not,
since a slash at the end of a path or too long a path can make it fail, but they
are routed too.

## Main definitions

* `FileStore.Routed`: Files are told by their routes.
* `Alike`: Both succeed or both fail, with related results.
* `SettingsError.SameKind`, `Settings.SamePlaces`: Settings up to spelling.
* `Settings.SameFile`: Two runs have the same file to go by.
* `Settings.FoundIn`: The directory that the file was found in.

## Theorems

* `FileStore.Routed.of_congr`: Files that depend on routes alone are routed.
* `Memory.routed`, `Disk.routed`: Both kinds of files are routed.
* `alike_bind`: Related computations one after the other.
* `Settings.resolve_alike`: Resolving respects the route of the directory.
* `Settings.ofLoaded_alike`: Loading respects the route of the file.
* `Settings.find_same_below`: A run may be started anywhere below its file.
-/

namespace KeywordTable

variable {σ : Type} [FileStore σ]

/-- Files are told by their routes: paths to files that have the same route lead
    to the same text, and have a name on their way. -/
structure FileStore.Routed (s : σ) : Prop where
  load_eq : ∀ p q : Path, FileStore.isFile s p = true → FileStore.isFile s q = true →
    p.route = q.route → (FileStore.load s p).toOption = (FileStore.load s q).toOption
  names_ne_nil : ∀ p : Path, FileStore.isFile s p = true → p.route.names ≠ []

/-- Files that depend on routes alone are routed, if neither the root nor the
    empty path is a file. -/
theorem FileStore.Routed.of_congr {s : σ}
    (hfile : ∀ p q : Path, p.route = q.route → FileStore.isFile s p = FileStore.isFile s q)
    (hload : ∀ p q : Path, p.route = q.route →
      (FileStore.load s p).toOption = (FileStore.load s q).toOption)
    (hroot : FileStore.isFile s (.ofText "/") = false)
    (hempty : FileStore.isFile s (.ofText "") = false) : FileStore.Routed s := by
  refine ⟨fun p q _ _ => hload p q, fun p hp hnames => ?_⟩
  -- Without a name the path is spelled like one of the two that are no file.
  cases habs : p.route.absolute with
  | true =>
      have hroute : p.route = (Path.ofText "/").route := by
        rw [show (Path.ofText "/").route = { absolute := true, names := [] } from rfl, ← habs,
          ← hnames]
      rw [hfile _ _ hroute, hroot] at hp
      exact Bool.false_ne_true hp
  | false =>
      have hroute : p.route = (Path.ofText "").route := by
        rw [show (Path.ofText "").route = { absolute := false, names := [] } from rfl, ← habs,
          ← hnames]
      rw [hfile _ _ hroute, hempty] at hp
      exact Bool.false_ne_true hp

/-- Files in memory are routed, since they are kept under routes. -/
theorem Memory.routed {m : Memory} (hroot : m.contains (.ofText "/") = false)
    (hempty : m.contains (.ofText "") = false) : FileStore.Routed m := by
  refine .of_congr (fun p q h => ?_) (fun p q h => ?_) hroot hempty
  · change (m.files.lookup p.route).isSome = (m.files.lookup q.route).isSome
    rw [h]
  · change (m.read p).toOption = (m.read q).toOption
    unfold Memory.read Memory.get?
    rw [h]
    cases m.files.lookup q.route <;> rfl

/-- Files on a disk are routed. -/
theorem Disk.routed (d : Disk) : FileStore.Routed d := by
  have hbytes : ∀ p, FileStore.isFile d p = true → ∃ bytes, d.bytes? p = some bytes := by
    intro p hp
    exact Option.isSome_iff_exists.mp ((d.isFile_eq p).symm.trans hp)
  constructor
  · intro p q hp hq hroute
    obtain ⟨bytes, hp⟩ := hbytes p hp
    obtain ⟨bytes', hq⟩ := hbytes q hq
    change (d.load p).toOption = (d.load q).toOption
    rw [toOption_load, toOption_load, hp, hq, bytes_congr hroute hp hq]
  · intro p hp
    obtain ⟨bytes, hp⟩ := hbytes p hp
    exact names_ne_nil_of_bytes hp

section Alike

variable {ε ε' α α' β β' : Type}

/-- Both succeed or both fail, with related results. -/
def Alike (E : ε → ε' → Prop) (R : α → α' → Prop) : Except ε α → Except ε' α' → Prop
  | .error e, .error e' => E e e'
  | .ok a, .ok a' => R a a'
  | _, _ => False

theorem alike_refl {E : ε → ε → Prop} {R : α → α → Prop} (hE : ∀ e, E e e) (hR : ∀ a, R a a)
    (x : Except ε α) : Alike E R x x := by
  cases x with
  | error e => exact hE e
  | ok a => exact hR a

/-- Related computations one after the other. -/
theorem alike_bind {E : ε → ε' → Prop} {R : α → α' → Prop} {S : β → β' → Prop}
    {x : Except ε α} {x' : Except ε' α'} {k : α → Except ε β} {k' : α' → Except ε' β'}
    (h : Alike E R x x') (hk : ∀ a a', R a a' → Alike E S (k a) (k' a')) :
    Alike E S (x >>= k) (x' >>= k') := by
  cases x with
  | error e =>
      cases x' with
      | error e' => exact h
      | ok a' => exact h.elim
  | ok a =>
      cases x' with
      | error e' => exact h.elim
      | ok a' => exact hk a a' h

end Alike

/-- The errors say the same, up to the spelling of the path. -/
def SettingsError.SameKind : SettingsError → SettingsError → Prop
  | .notFound p, .notFound q => p.route = q.route
  | .unreadable p _, .unreadable q _ => p.route = q.route
  | .unparsable p e, .unparsable q e' => p.route = q.route ∧ e = e'
  | .empty setting, .empty setting' => setting = setting'
  | _, _ => False

theorem SettingsError.sameKind_refl (e : SettingsError) : e.SameKind e := by
  cases e with
  | notFound path => rfl
  | unreadable path error => rfl
  | unparsable path error => exact ⟨rfl, rfl⟩
  | empty setting => rfl

namespace Settings

/-- The settings are the same, up to the spelling of paths. -/
structure SamePlaces (a b : Settings) : Prop where
  markers_eq : a.markers = b.markers
  template_eq : a.template = b.template
  input_eq : a.input.route = b.input.route
  output_eq : a.output.route = b.output.route
  file_eq : a.file.map Path.route = b.file.map Path.route

/-- A path of the settings file is taken from the directory of the file, so its
    route depends on the route of that directory. -/
theorem path_alike (setting : Setting) (file : SettingsFile) {base base' : Path}
    (h : base.route = base'.route) (cwd cwd' : Path) :
    Alike SettingsError.SameKind (fun p q : Path => p.route = q.route)
      (setting.path file base cwd none) (setting.path file base' cwd' none) := by
  unfold Setting.path
  cases file.get setting with
  | error e => exact e.sameKind_refl
  | ok value => exact Path.route_join_congr h (.ofText value)

/-- Resolving without overrides looks at the directory of the file only. -/
theorem resolve_alike (file : SettingsFile) {base base' : Path} (h : base.route = base'.route)
    (cwd cwd' : Path) :
    Alike SettingsError.SameKind SamePlaces (resolve file base cwd {})
      (resolve file base' cwd' {}) := by
  have hget : ∀ setting, Alike SettingsError.SameKind Eq (file.get setting) (file.get setting) :=
    fun setting => alike_refl SettingsError.sameKind_refl (fun _ => rfl) (file.get setting)
  refine alike_bind (path_alike .input file h cwd cwd') fun input input' hinput => ?_
  refine alike_bind (path_alike .output file h cwd cwd') fun output output' houtput => ?_
  -- The other values are read from the file alone.
  refine alike_bind (hget .opening) fun opening opening' hopening => ?_
  refine alike_bind (hget .closing) fun closing closing' hclosing => ?_
  refine alike_bind (hget .header) fun header header' hheader => ?_
  refine alike_bind (hget .enumType) fun enumType enumType' henumType => ?_
  refine alike_bind (hget .tableName) fun tableName tableName' htableName => ?_
  rw [hopening, hclosing, hheader, henumType, htableName]
  exact ⟨rfl, rfl, hinput, houtput, rfl⟩

/-- The parents of paths to a file have one route, if the paths have. -/
theorem exists_parents {p q : Path} (h : p.route = q.route) (hp : p.route.names ≠ []) :
    ∃ dir dir', p.parent? = some dir ∧ q.parent? = some dir' ∧ dir.route = dir'.route := by
  obtain ⟨dir, hdir, hroute⟩ := Path.exists_parent hp
  obtain ⟨dir', hdir', hroute'⟩ := Path.exists_parent (h ▸ hp)
  exact ⟨dir, dir', hdir, hdir', by rw [hroute, hroute', h]⟩

/-- What a file makes depends on its text and on the route of its path. -/
theorem ofLoaded_alike {p q : Path} (h : p.route = q.route) (hp : p.route.names ≠ [])
    {loaded loaded' : Except FileError String} (hloaded : loaded.toOption = loaded'.toOption)
    (cwd cwd' : Path) :
    Alike SettingsError.SameKind SamePlaces (ofLoaded p cwd {} loaded)
      (ofLoaded q cwd' {} loaded') := by
  obtain ⟨dir, dir', hdir, hdir', hroute⟩ := exists_parents h hp
  cases loaded with
  | error e =>
      cases loaded' with
      | error e' => exact h
      | ok text => exact nomatch hloaded
  | ok text =>
      cases loaded' with
      | error e' => exact nomatch hloaded
      | ok text' =>
          obtain rfl := Option.some.inj hloaded
          simp only [ofLoaded, ofText, hdir, hdir', Option.getD_some]
          -- One text is parsed in the same way, and a fault is told of either path.
          have hparse : Alike SettingsError.SameKind Eq
              ((SettingsFile.parse text).mapError (.unparsable p))
              ((SettingsFile.parse text).mapError (.unparsable q)) := by
            cases SettingsFile.parse text with
            | error e => exact ⟨h, rfl⟩
            | ok file => exact rfl
          refine alike_bind hparse fun file file' hfile => ?_
          rw [← hfile]
          refine alike_bind (resolve_alike file hroute cwd cwd') fun a b hab => ?_
          exact ⟨hab.markers_eq, hab.template_eq, hab.input_eq, hab.output_eq, congrArg some h⟩

/-- Two runs have the same file to go by: the one that was asked for by an
    absolute path, or the nearest one, up to the spelling of its path. -/
def SameFile (s : σ) (cwd cwd' : Path) (explicit : Option Path) : Prop :=
  match explicit with
  | some path => path.isAbsolute = true
  | none => ∃ p q, chosen? s cwd none = some p ∧ chosen? s cwd' none = some q ∧ p.route = q.route

/-- The file at `p` was found in the directory `dir`: the one that its name was
    joined to, or the one that the path that was asked for goes through last. -/
def FoundIn (cwd : Path) (explicit : Option Path) (p dir : Path) : Prop :=
  match explicit with
  | some _ => ∃ name, p.route = dir.route.extend [name]
  | none => dir ∈ cwd.ancestors ∧ p = dir.join (.ofText fileName)

/-- A file that was found in a directory has a parent on the same route. -/
theorem parent_of_foundIn {cwd p dir : Path} {explicit : Option Path}
    (h : FoundIn cwd explicit p dir) : ∃ base, p.parent? = some base ∧ base.route = dir.route := by
  have hroute : ∃ name, p.route = dir.route.extend [name] := by
    cases explicit with
    | some path => exact h
    | none =>
        obtain ⟨-, rfl⟩ := h
        exact ⟨fileName.toList, Path.route_join_name dir (by decide) (by decide)⟩
  obtain ⟨name, hroute⟩ := hroute
  have hnames : p.route.names ≠ [] := by
    rw [hroute]
    exact List.append_ne_nil_of_right_ne_nil _ (List.cons_ne_nil name [])
  obtain ⟨base, hbase, hbaseRoute⟩ := Path.exists_parent hnames
  refine ⟨base, hbase, ?_⟩
  rw [hbaseRoute, hroute, Route.extend, List.dropLast_concat]

/-- Every chosen file was found in some directory. -/
theorem exists_foundIn {s : σ} (hs : FileStore.Routed s) {cwd p : Path} {explicit : Option Path}
    (hp : chosen? s cwd explicit = some p) (hfile : FileStore.isFile s p = true) :
    ∃ dir, FoundIn cwd explicit p dir := by
  cases explicit with
  | none =>
      have hmem := List.mem_of_find?_eq_some hp
      obtain ⟨dir, hdir, rfl⟩ := List.mem_map.mp hmem
      exact ⟨dir, hdir, rfl⟩
  | some path =>
      have hnames := hs.names_ne_nil p hfile
      obtain ⟨dir, -, hroute⟩ := Path.exists_parent hnames
      refine ⟨dir, p.route.names.getLast hnames, ?_⟩
      rw [hroute, Route.extend, List.dropLast_append_getLast hnames]

/-- A path of the settings is the one of the file or the built-in one, taken
    from the directory of the file. -/
theorem path_route {file : SettingsFile} {setting : Setting} {base dir cwd path : Path}
    (hbase : base.route = dir.route) (h : setting.path file base cwd none = .ok path) :
    path.route = (dir.join (.ofText ((file.value? setting).getD setting.initial))).route := by
  simp only [Setting.path, SettingsFile.get] at h
  cases hvalue : file.value? setting with
  | none =>
      rw [hvalue] at h
      obtain rfl := Except.ok.inj h
      exact Path.route_join_congr hbase _
  | some value =>
      simp only [hvalue] at h
      by_cases hempty : value = ""
      · rw [if_pos hempty] at h
        exact nomatch h
      · rw [if_neg hempty] at h
        obtain rfl := Except.ok.inj h
        exact Path.route_join_congr hbase _

/-- Two runs that have the same file to go by choose paths with one route, and
    either both or neither is a file. -/
theorem chosen_of_sameFile {s : σ} {cwd cwd' : Path} {explicit : Option Path}
    (h : SameFile s cwd cwd' explicit) :
    ∃ p q, chosen? s cwd explicit = some p ∧ chosen? s cwd' explicit = some q ∧
      p.route = q.route ∧ FileStore.isFile s p = FileStore.isFile s q := by
  cases explicit with
  | some path =>
      -- An absolute path stands for itself, wherever it is taken from.
      have hjoin : ∀ dir : Path, dir.join path = path := fun dir => if_pos h
      refine ⟨path, path, ?_, ?_, rfl, rfl⟩
      · exact congrArg some (hjoin cwd)
      · exact congrArg some (hjoin cwd')
  | none =>
      obtain ⟨p, q, hp, hq, hroute⟩ := h
      have hfile : FileStore.isFile s p = true := List.find?_some hp
      have hfile' : FileStore.isFile s q = true := List.find?_some hq
      exact ⟨p, q, hp, hq, hroute, hfile.trans hfile'.symm⟩

/-- A run may be started anywhere below its settings file. Two runs that have
    the same file to go by both succeed, with settings that are the same up to
    the spelling of paths, or both fail for the same reason. Where they succeed,
    the file has a parent, which is the directory that the file was found in, and
    the paths of the settings are taken from that directory. -/
theorem find_same_below (w : World σ) (hs : FileStore.Routed w.store) (cwd cwd' : Path)
    (explicit : Option Path) (hsame : SameFile w.store cwd cwd' explicit) :
    let result := ((find cwd explicit {} : Simulated σ (Except SettingsError Settings)).run w).1
    let result' := ((find cwd' explicit {} : Simulated σ (Except SettingsError Settings)).run w).1
    Alike SettingsError.SameKind SamePlaces result result' ∧
    ∀ settings, result = .ok settings → ∃ p dir base text file,
      chosen? w.store cwd explicit = some p ∧ FoundIn cwd explicit p dir ∧
      p.parent? = some base ∧ base.route = dir.route ∧
      FileStore.load w.store p = .ok text ∧ SettingsFile.parse text = .ok file ∧
      settings.file = some p ∧
      settings.input.route =
        (dir.join (.ofText ((file.value? .input).getD Setting.input.initial))).route ∧
      settings.output.route =
        (dir.join (.ofText ((file.value? .output).getD Setting.output.initial))).route := by
  intro result result'
  have hresult : result = findIn w.store cwd explicit {} :=
    (gives_find cwd explicit {} w.store w rfl).1
  have hresult' : result' = findIn w.store cwd' explicit {} :=
    (gives_find cwd' explicit {} w.store w rfl).1
  obtain ⟨p, q, hp, hq, hroute, hfiles⟩ := chosen_of_sameFile hsame
  rw [hresult, hresult']
  simp only [findIn, hp, hq, ← hfiles]
  cases hfile : FileStore.isFile w.store p with
  | false =>
      simp only [Bool.false_eq_true, if_false]
      refine ⟨hroute, fun settings h => ?_⟩
      cases h
  | true =>
      simp only [if_true]
      have hnames := hs.names_ne_nil p hfile
      have hload := hs.load_eq p q hfile (hfiles ▸ hfile) hroute
      refine ⟨ofLoaded_alike hroute hnames hload cwd cwd', fun settings hsettings => ?_⟩
      obtain ⟨text, file, htext, hparse, hresolve, hname⟩ := ofLoaded_eq_ok_iff.mp hsettings
      obtain ⟨dir, hdir⟩ := exists_foundIn hs hp hfile
      obtain ⟨base, hbase, hbaseRoute⟩ := parent_of_foundIn hdir
      -- There is a parent, so the place of the run does not stand in for it.
      rw [hbase, Option.getD_some] at hresolve
      obtain ⟨hinput, houtput, -⟩ := resolve_eq_ok_iff.mp hresolve
      exact ⟨p, dir, base, text, file, rfl, hdir, hbase, hbaseRoute, htext, hparse, hname,
        path_route hbaseRoute hinput, path_route hbaseRoute houtput⟩

/-- Two runs below `/a` that spell the path of the settings file in two ways. -/
theorem find_same_below_spelled :
    let d : Disk :=
      { nodes := [(["a".toList], .directory), (["b".toList, "a".toList], .directory),
          (["c".toList, "a".toList], .directory),
          ([fileName.toList, "a".toList], .file "[paths]\noutput = \"out/table.h\"\n".toUTF8)] }
    let start := fun dir => ((find (.ofText dir) none {} :
      Simulated Disk (Except SettingsError Settings)).run { store := d }).1
    FileStore.Routed d ∧ SameFile d (.ofText "/a/b") (.ofText "//a/./c/") none ∧
    Alike SettingsError.SameKind SamePlaces (start "/a/b") (start "//a/./c/") ∧
    (start "/a/b").toOption.map (·.output) = some (.ofText "/a/out/table.h") ∧
    (start "//a/./c/").toOption.map (·.output) = some (.ofText "//a/out/table.h") := by
  intro d start
  have hsame : SameFile d (.ofText "/a/b") (.ofText "//a/./c/") none :=
    ⟨.ofText "/a/kwgen.toml", .ofText "//a/kwgen.toml", by decide +kernel, by decide +kernel,
      by decide +kernel⟩
  have hboth := find_same_below { store := d } d.routed _ _ none hsame
  exact ⟨d.routed, hsame, hboth.1, by decide +kernel, by decide +kernel⟩

end Settings

end KeywordTable
