import KeywordTable.Host

/-!
# Finding the Settings File

A run looks for its settings file in the directory in which it was started and
then in every directory around that one; the nearest wins. If one was asked for
by name it is that one or none. A settings file that is there but cannot be used
is an error, and no other is looked for.

## Main definitions

* `findUpwards`: The nearest file of a name.
* `Settings.load`: The settings that a file makes.
* `Settings.find`: The settings of a run.
-/

namespace KeywordTable

variable {m : Type → Type} [Monad m] [Host m]

/-- The paths at which a file is looked for, in order. -/
def Path.candidates (start name : Path) : List Path :=
  start.ancestors.map (·.join name)

/-- The nearest file of a name, in a directory or around it. -/
def findUpwards (start name : Path) : m (Option Path) :=
  (start.candidates name).findM? Host.isFile

namespace Settings

/-- The settings that the text of a file makes. -/
def ofText (path : Path) (text : String) (cwd : Path) (overrides : Overrides) :
    Except SettingsError Settings := do
  let file ← (SettingsFile.parse text).mapError (.unparsable path)
  let settings ← resolve file (path.parent?.getD cwd) cwd overrides
  return { settings with file := some path }

/-- The settings that a file makes. -/
def load (path cwd : Path) (overrides : Overrides) : m (Except SettingsError Settings) := do
  Host.log (.loading path)
  match ← Host.load path with
  | .error e => return .error (.unreadable path e)
  | .ok text => return ofText path text cwd overrides

/-- The settings of a run that was started in `cwd`. -/
def find (cwd : Path) (explicit : Option Path) (overrides : Overrides) :
    m (Except SettingsError Settings) := do
  match explicit with
  | some path =>
    let path := cwd.join path
    if ← Host.isFile path then load path cwd overrides
    else return .error (.notFound path)
  | none =>
    match ← findUpwards cwd (.ofText fileName) with
    | some path => load path cwd overrides
    | none =>
      Host.log .noSettingsFile
      return resolve .empty cwd cwd overrides

end Settings

end KeywordTable
