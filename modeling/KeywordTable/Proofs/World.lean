import KeywordTable.Command

/-!
# What Runs Do to Files

The code of a run asks its host for everything, and in a world each request has
an answer and leaves a world behind. Much of that world is only ever added to:
what is printed and what is logged is never looked at again. So the answer of a
run, and the files that it leaves, are told by the files that it finds, and
`Gives` is the judgment that says which they are.

The judgment goes through a run request by request. There is one rule for each
request and one for doing things one after the other, and with those every part
of the code is brought to a plain function: `Settings.findIn` looks for the
settings, `Settings.generateIn` makes the table, and `Arguments.runIn` is a run
of the whole command. Only the second of them stores anything, and only once.

All of this holds for every kind of file store.

## Main definitions

* `Gives`: A run among some files gives an answer and leaves other files.
* `Settings.chosen?`: The settings file that a run goes by.
* `Settings.findIn`: The settings of a run among some files.
* `Settings.generateIn`: Makes the table among some files.
* `Arguments.runIn`: Does what the arguments ask for among some files.

## Theorems

* `gives_bind`: Doing things one after the other.
* `gives_mapM_cons`: Doing the same for each member of a list.
* `gives_find`: How a run finds its settings.
* `gives_generate`: How the table is made.
* `gives_session`, `gives_shown`: Telling of it and showing it change nothing.
* `gives_run`: What a run does as a whole.
-/

namespace KeywordTable

open Terminal (Console)

variable {σ α β : Type}

/-- Among the files `s` a run gives the answer `a` and leaves the files `s'`,
    whatever was printed and logged before. -/
def Gives (act : Simulated σ α) (s : σ) (a : α) (s' : σ) : Prop :=
  ∀ w : World σ, w.store = s → (act.run w).1 = a ∧ (act.run w).2.store = s'

theorem gives_pure (a : α) (s : σ) : Gives (pure a) s a s :=
  fun _ hw => ⟨rfl, hw⟩

/-- Doing things one after the other. -/
theorem gives_bind {act : Simulated σ α} {k : α → Simulated σ β} {s s' s'' : σ} {a : α} {b : β}
    (h : Gives act s a s') (hk : Gives (k a) s' b s'') : Gives (act >>= k) s b s'' := by
  intro w hw
  obtain ⟨ha, hs⟩ := h w hw
  have hrun : (act >>= k).run w = (k (act.run w).1).run (act.run w).2 := rfl
  rw [hrun, ha]
  exact hk _ hs

/-- Doing the same for each member of a list. -/
theorem gives_mapM_cons {act : α → Simulated σ β} {x : α} {xs : List α} {s s' s'' : σ} {b : β}
    {bs : List β} (h : Gives (act x) s b s') (hrest : Gives (xs.mapM act) s' bs s'') :
    Gives ((x :: xs).mapM act) s (b :: bs) s'' := by
  rw [List.mapM_cons]
  exact gives_bind h (gives_bind hrest (gives_pure (b :: bs) s''))

section Requests

variable [FileStore σ]

theorem gives_isFile (p : Path) (s : σ) : Gives (Host.isFile p) s (FileStore.isFile s p) s := by
  rintro w rfl
  exact ⟨rfl, rfl⟩

theorem gives_load (p : Path) (s : σ) : Gives (Host.load p) s (FileStore.load s p) s := by
  rintro w rfl
  exact ⟨rfl, rfl⟩

theorem gives_read (p : Path) (s : σ) : Gives (Host.read p) s (FileStore.read s p) s := by
  rintro w rfl
  exact ⟨rfl, rfl⟩

theorem gives_log (event : Event) (s : σ) : Gives (Host.log event) s () s :=
  fun _ hw => ⟨rfl, hw⟩

theorem gives_print (console : Console) (stream : Stream) (text : String) (s : σ) :
    Gives (console.print stream text) s () s := by
  intro w hw
  cases stream with
  | out => exact ⟨rfl, hw⟩
  | err => exact ⟨rfl, hw⟩

theorem gives_timed {act : Simulated σ α} {s s' : σ} {a : α} (h : Gives act s a s') :
    Gives (Host.timed act) s (a, 0) s' :=
  gives_bind h (gives_pure _ _)

/-- A write that succeeds stores. -/
theorem gives_write_ok {p : Path} {text : String} {s s' : σ}
    (h : FileStore.write s p text = .ok s') : Gives (Host.write p text) s (.ok ()) s' := by
  rintro w rfl
  simp only [Host.write, StateT.run_bind, StateT.run_get, pure_bind, World.addEvents, h,
    StateT.run_set, StateT.run_pure]
  exact ⟨rfl, rfl⟩

/-- A write that fails leaves the files as they are. -/
theorem gives_write_error {p : Path} {text : String} {s : σ} {e : FileError}
    (h : FileStore.write s p text = .error e) : Gives (Host.write p text) s (.error e) s := by
  rintro w rfl
  simp only [Host.write, StateT.run_bind, StateT.run_get, pure_bind, World.addEvents, h,
    StateT.run_set, StateT.run_pure]
  exact ⟨rfl, rfl⟩

theorem gives_logs (events : List Event) (s : σ) : Gives (events.forM Host.log) s () s := by
  induction events with
  | nil => exact gives_pure () s
  | cons event events ih => exact gives_bind (gives_log event s) ih

/-- The first file among some paths. -/
theorem gives_findM (paths : List Path) (s : σ) :
    Gives (paths.findM? Host.isFile) s (paths.find? (FileStore.isFile s)) s := by
  induction paths with
  | nil => exact gives_pure none s
  | cons p paths ih =>
      refine gives_bind (gives_isFile p s) ?_
      rw [List.find?_cons]
      -- The walk ends at the first file, and what follows is not asked for.
      cases FileStore.isFile s p with
      | true => exact gives_pure (some p) s
      | false => exact ih

end Requests

variable [FileStore σ]

namespace Settings

/-- The settings file that a run goes by: the one that was asked for, or else
    the nearest. -/
def chosen? (s : σ) (cwd : Path) (explicit : Option Path) : Option Path :=
  match explicit with
  | some path => some (cwd.join path)
  | none => (cwd.candidates (.ofText fileName)).find? (FileStore.isFile s)

/-- The settings that the text of a file makes, if it has one. -/
def ofLoaded (path cwd : Path) (overrides : Overrides) :
    Except FileError String → Except SettingsError Settings
  | .error e => .error (.unreadable path e)
  | .ok text => ofText path text cwd overrides

/-- The settings of a run among some files. -/
def findIn (s : σ) (cwd : Path) (explicit : Option Path) (overrides : Overrides) :
    Except SettingsError Settings :=
  match chosen? s cwd explicit with
  | some path =>
    if FileStore.isFile s path then ofLoaded path cwd overrides (FileStore.load s path)
    else .error (.notFound path)
  | none => resolve .empty cwd cwd overrides

theorem gives_loading (path cwd : Path) (overrides : Overrides) (s : σ) :
    Gives (load path cwd overrides) s (ofLoaded path cwd overrides (FileStore.load s path)) s := by
  refine gives_bind (gives_log (.loading path) s) (gives_bind (gives_load path s) ?_)
  cases FileStore.load s path with
  | error e => exact gives_pure _ s
  | ok text => exact gives_pure _ s

/-- A run finds its settings without changing files. -/
theorem gives_find (cwd : Path) (explicit : Option Path) (overrides : Overrides) (s : σ) :
    Gives (find cwd explicit overrides) s (findIn s cwd explicit overrides) s := by
  cases explicit with
  | some path =>
      refine gives_bind (gives_isFile (cwd.join path) s) ?_
      simp only [findIn, chosen?]
      cases FileStore.isFile s (cwd.join path) with
      | true => exact gives_loading (cwd.join path) cwd overrides s
      | false => exact gives_pure _ s
  | none =>
      refine gives_bind (gives_findM (cwd.candidates (.ofText fileName)) s) ?_
      simp only [findIn, chosen?]
      cases hfound : (cwd.candidates (.ofText fileName)).find? (FileStore.isFile s) with
      | some path =>
          -- What the walk has found is a file, so there is no second look.
          simp only [List.find?_some hfound, if_true]
          exact gives_loading path cwd overrides s
      | none => exact gives_bind (gives_log .noSettingsFile s) (gives_pure _ s)

/-- Makes the table among some files. -/
def generateIn (settings : Settings) (s : σ) : Except GenerateError Generated × σ :=
  match FileStore.read s settings.input with
  | .error e => (.error (.read settings.input e), s)
  | .ok source =>
    let (words, code) := settings.render source
    match FileStore.write s settings.output code with
    | .error e => (.error (.write settings.output e), s)
    | .ok s' => (.ok { words, code, output := settings.output }, s')

theorem generateIn_of_read_error (settings : Settings) {s : σ} {e : FileError}
    (h : FileStore.read s settings.input = .error e) :
    settings.generateIn s = (.error (.read settings.input e), s) := by
  simp only [generateIn, h]

theorem generateIn_of_write_ok (settings : Settings) {s s' : σ} {source : String}
    (hread : FileStore.read s settings.input = .ok source)
    (hwrite : FileStore.write s settings.output (settings.render source).2 = .ok s') :
    settings.generateIn s =
      (.ok { words := (settings.render source).1
             code := (settings.render source).2
             output := settings.output }, s') := by
  simp only [generateIn, hread, hwrite]

theorem gives_renderLogged (settings : Settings) (source : String) (s : σ) :
    Gives (settings.renderLogged source) s (settings.render source) s :=
  gives_bind (gives_logs _ s) (gives_bind (gives_log _ s)
    (gives_bind (gives_log _ s) (gives_pure _ s)))

/-- The table is made by reading once and then writing once. -/
theorem gives_generate (settings : Settings) (s : σ) :
    Gives (generate settings) s (settings.generateIn s).1 (settings.generateIn s).2 := by
  refine gives_bind (gives_read settings.input s) ?_
  unfold generateIn
  cases FileStore.read s settings.input with
  | error e => exact gives_pure _ s
  | ok source =>
      refine gives_bind (gives_renderLogged settings source s) ?_
      cases hwrite : FileStore.write s settings.output (settings.render source).2 with
      | error e =>
          simp only [hwrite]
          exact gives_bind (gives_write_error hwrite) (gives_pure _ s)
      | ok s' =>
          simp only [hwrite]
          exact gives_bind (gives_write_ok hwrite)
            (gives_bind (gives_log (.wrote settings.output) s') (gives_pure _ s'))

end Settings

/-- Telling of a table changes neither the answer nor the files. -/
theorem Session.gives_session (session : Session) (s : σ) :
    Gives session.generate s (session.settings.generateIn s).1
      (session.settings.generateIn s).2 := by
  have hannounce : Gives session.announce s (session.settings.generateIn s).1
      (session.settings.generateIn s).2 := by
    refine gives_bind (session.settings.gives_generate s) ?_
    cases (session.settings.generateIn s).1 with
    | error e => exact gives_pure _ _
    | ok g => exact gives_bind (gives_print session.console .err _ _) (gives_pure _ _)
  -- A failed generation says nothing more, neither here nor when it is timed.
  refine gives_bind (gives_timed hannounce) ?_
  cases (session.settings.generateIn s).1 with
  | error e => exact gives_pure _ _
  | ok g =>
      cases session.measureTime with
      | true => exact gives_bind (gives_print session.console .err _ _) (gives_pure _ _)
      | false => exact gives_pure _ _

/-- Nor does showing it. -/
theorem Session.gives_shown (session : Session) (s : σ) :
    Gives session.generateShown s (session.settings.generateIn s).1
      (session.settings.generateIn s).2 := by
  refine gives_bind (session.gives_session s) ?_
  cases (session.settings.generateIn s).1 with
  | error e => exact gives_pure _ _
  | ok g => exact gives_bind (gives_print session.console .out g.code _) (gives_pure _ _)

namespace Arguments

/-- Does what the arguments ask for among some files. -/
def runIn (args : Arguments) (cwd : Path) (s : σ) : Except RunError Unit × σ :=
  match Settings.findIn s cwd (args.path? .config) args.overrides with
  | .error e => (.error (.settings e), s)
  | .ok settings =>
    match settings.generateIn s with
    | (.error e, s') => (.error (.generate e), s')
    | (.ok _, s') => (.ok (), s')

/-- A run finds its settings and makes the table. What it prints changes
    nothing. -/
theorem gives_run (args : Arguments) (cwd : Path) (console : Console) (s : σ) :
    Gives (args.run cwd console) s (args.runIn cwd s).1 (args.runIn cwd s).2 := by
  refine gives_bind (Settings.gives_find cwd (args.path? .config) args.overrides s) ?_
  unfold runIn
  cases Settings.findIn s cwd (args.path? .config) args.overrides with
  | error e => exact gives_pure _ s
  | ok settings =>
      refine gives_bind (gives_log (.resolved settings) s) ?_
      let session : Session := { settings, console, measureTime := args.flag .verbose }
      -- Whether the table is shown or not, the answer and the files are the same.
      have hmade : Gives (if args.flag .print then session.generateShown else session.generate) s
          (settings.generateIn s).1 (settings.generateIn s).2 := by
        cases args.flag .print with
        | true => exact session.gives_shown s
        | false => exact session.gives_session s
      refine gives_bind hmade ?_
      cases hgen : settings.generateIn s with
      | mk result s' =>
          simp only [hgen]
          cases result with
          | error e => exact gives_pure _ _
          | ok g => exact gives_pure _ _

end Arguments

end KeywordTable
