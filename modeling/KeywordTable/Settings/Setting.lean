/-!
# Settings

The seven things that a settings file may say, in three groups. A group is a
table of the file and a setting is a key in it. The order of the settings in a
group counts: a group may also be written as an array, which is then filled in
this order.

## Main definitions

* `SettingGroup`: A table of the settings file.
* `Setting`: A key of the settings file.
* `SettingGroup.settings`: The settings of a group, in order.
* `Setting.title`: The setting as messages name it.
-/

namespace KeywordTable

/-- A table of the settings file. -/
inductive SettingGroup where
  /-- Where to read and where to write. -/
  | paths
  /-- What bounds the keyword range. -/
  | markers
  /-- The names in the generated table. -/
  | table
  deriving Repr, DecidableEq

/-- A key of the settings file. -/
inductive Setting where
  | input
  | output
  | opening
  | closing
  | header
  | enumType
  | tableName
  deriving Repr, DecidableEq

namespace SettingGroup

/-- All groups, in order. -/
def all : List SettingGroup := [paths, markers, table]

/-- The group as the settings file names it. -/
def name : SettingGroup → String
  | paths => "paths"
  | markers => "markers"
  | table => "table"

/-- The group as messages name what should stand there. -/
def expected : SettingGroup → String
  | paths => "struct PathsConfig"
  | markers => "struct MarkersConfig"
  | table => "struct TableConfig"

/-- The settings of a group, in order. -/
def settings : SettingGroup → List Setting
  | paths => [.input, .output]
  | markers => [.opening, .closing]
  | table => [.header, .enumType, .tableName]

end SettingGroup

namespace Setting

/-- All settings, in order. -/
def all : List Setting := SettingGroup.all.flatMap SettingGroup.settings

/-- The group of a setting. -/
def group : Setting → SettingGroup
  | input | output => .paths
  | opening | closing => .markers
  | header | enumType | tableName => .table

/-- The setting as the settings file names it inside its group. -/
def name : Setting → String
  | input => "input"
  | output => "output"
  | opening => "start"
  | closing => "end"
  | header => "header"
  | enumType => "enum_type"
  | tableName => "name"

/-- The setting as messages name it. -/
def title (s : Setting) : String :=
  s.group.name ++ "." ++ s.name

/-- What a value of the setting should be, as messages name it. -/
def expected (s : Setting) : String :=
  if s.group = .paths then "path string" else "a string"

end Setting

end KeywordTable
