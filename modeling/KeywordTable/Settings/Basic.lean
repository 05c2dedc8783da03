import KeywordTable.Path
import KeywordTable.Settings.Schema
import KeywordTable.Store.FileError
import KeywordTable.Table

/-!
# Settings of a Run

What a run goes by, put together from three places: values given for this run
alone come first, then those of the settings file, then the built-in ones. A
path of the settings file is taken from the directory of that file, and a path
given for this run from the directory in which the run was started.

A settings file may leave a setting out but may not leave it empty. A setting
that is replaced for this run is not looked at.

## Main definitions

* `Settings`: What a run goes by.
* `Overrides`: The paths given for one run.
* `SettingsError`: Why there are no settings.
* `Settings.resolve`: The settings that a settings file makes.
-/

namespace KeywordTable

/-- What a run goes by. -/
structure Settings where
  /-- The header that declares the keywords. -/
  input : Path
  /-- The file that the table is written to. -/
  output : Path
  markers : Markers := {}
  template : Template := {}
  /-- The settings file, if there was one. -/
  file : Option Path := none
  deriving Repr, DecidableEq, Inhabited

/-- The paths given for one run. -/
structure Overrides where
  input : Option Path := none
  output : Option Path := none
  deriving Repr, DecidableEq, Inhabited

/-- Why there are no settings. -/
inductive SettingsError where
  /-- The settings file that was asked for is no file. -/
  | notFound (path : Path)
  | unreadable (path : Path) (error : FileError)
  | unparsable (path : Path) (error : ParseError)
  /-- The settings file leaves a setting empty. -/
  | empty (setting : Setting)

/-- The name under which a settings file is looked for. -/
def Settings.fileName : String := "kwgen.toml"

/-- The error as messages show it. -/
def SettingsError.message : SettingsError → String
  | notFound path => "Config file not found: " ++ path.text
  | unreadable path error => "Failed to read " ++ path.text ++ ": " ++ error.message
  | unparsable path error => "Failed to parse " ++ path.text ++ ": " ++ error.message
  | empty setting => "'" ++ setting.title ++ "' in " ++ Settings.fileName ++ " can't be empty"

/-- What holds where a settings file says nothing. -/
def Setting.initial : Setting → String
  | input => "token.h"
  | output => "token_convert.h"
  | opening => ({} : Markers).opening
  | closing => ({} : Markers).closing
  | header => ({} : Template).header
  | enumType => ({} : Template).enumType
  | tableName => ({} : Template).tableName

namespace SettingsFile

/-- The value that a file makes for a setting. -/
def get (file : SettingsFile) (s : Setting) : Except SettingsError String :=
  match file.value? s with
  | none => .ok s.initial
  | some value => if value = "" then .error (.empty s) else .ok value

end SettingsFile

/-- The path that a setting makes, taken from the directory of its origin. -/
def Setting.path (s : Setting) (file : SettingsFile) (base cwd : Path) (given : Option Path) :
    Except SettingsError Path :=
  match given with
  | some path => .ok (cwd.join path)
  | none => (file.get s).map fun value => base.join (.ofText value)

namespace Settings

/-- The settings that a settings file makes, where `base` is the directory of
    the file and `cwd` the one in which the run was started. -/
def resolve (file : SettingsFile) (base cwd : Path) (overrides : Overrides) :
    Except SettingsError Settings := do
  let input ← Setting.input.path file base cwd overrides.input
  let output ← Setting.output.path file base cwd overrides.output
  let opening ← file.get .opening
  let closing ← file.get .closing
  let header ← file.get .header
  let enumType ← file.get .enumType
  let tableName ← file.get .tableName
  return { input, output
           markers := { opening, closing }
           template := { header, enumType, tableName } }

end Settings

end KeywordTable
