import KeywordTable.Number.Shortest
import KeywordTable.Settings.Setting
import KeywordTable.Text.Quoted
import KeywordTable.Toml.Document
import KeywordTable.Toml.Excerpt

/-!
# Settings Files

A settings file is a TOML document that holds nothing but settings. Its tables
and keys are taken in the order of the document, and the first that does not fit
is the one that is reported: a key that is no setting, a value that is not a
string, an array too short for its group. Each is reported by the stretch of
text it stands in.

What a file says is kept as a list of settings with their values while it is
read, and as a function from settings after. A document never has a key twice,
so the list has no setting twice and the order in it does not matter.

## Main definitions

* `SettingsFile`: The values that a file gives.
* `Misfit`: Why a part of a document is no setting.
* `SettingGroup.read`: The settings in the table of a group.
* `SettingsFile.parse`: Reads a settings file.
-/

namespace KeywordTable

/-- The values that a settings file gives. -/
structure SettingsFile where
  value? : Setting → Option String

namespace SettingsFile

/-- The file that says nothing. -/
def empty : SettingsFile := ⟨fun _ => none⟩

/-- The file that gives the values of the list. -/
def ofList (values : List (Setting × String)) : SettingsFile :=
  ⟨fun s => values.lookup s⟩

end SettingsFile

/-- Why a part of a document is no setting. -/
inductive Misfit where
  /-- A key with this name is not wanted here. -/
  | unknown (name : String) (choices : List String)
  /-- The value is not of the kind that is wanted. -/
  | kind (found expected : String)
  /-- The array has too few elements for the group. -/
  | short (length : Nat) (group : SettingGroup)
  deriving Repr, DecidableEq

namespace Misfit

/-- A name as messages write it. -/
def code (name : String) : String :=
  "`" ++ name ++ "`"

/-- The names that could have stood there. -/
def choose : List String → String
  | [a, b] => code a ++ " or " ++ code b
  | names => "one of " ++ ", ".intercalate (names.map code)

/-- The reason as messages give it. -/
def message : Misfit → String
  | unknown name choices => "unknown field " ++ code name ++ ", expected " ++ choose choices
  | kind found expected => "invalid type: " ++ found ++ ", expected " ++ expected
  | short length group =>
    "invalid length " ++ toString length ++ ", expected " ++ group.expected ++ " with "
      ++ toString group.settings.length ++ " elements"

end Misfit

/-- A part of a document that is no setting, with the stretch it stands in. -/
structure Problem where
  span : Toml.Span
  misfit : Misfit

/-- Why a text is no settings file. -/
inductive ParseError where
  /-- It is not a TOML document. -/
  | malformed
  /-- The document holds something that is no setting. -/
  | problem (text : String) (problem : Problem)

namespace ParseError

/-- The problem as messages show it, which for a text that is no document at all
    is only that it is none. -/
def message : ParseError → String
  | malformed => "Failed to parse TOML:"
  | problem text p => "Failed to parse TOML: " ++ Toml.report text.toList p.span p.misfit.message

end ParseError

namespace Toml

/-- A scalar as messages name it. -/
def Scalar.found : Scalar → String
  | .string s => "string " ++ Text.quote s
  | .integer n => "integer " ++ Misfit.code (toString n)
  | .float x => "floating point " ++ Misfit.code x.text
  | .boolean b => "boolean " ++ Misfit.code (toString b)
  | .datetime => "map"

/-- A node as messages name it. -/
def Node.found : Node → String
  | .scalar x _ => x.found
  | .array _ _ => "sequence"
  | .table _ _ _ => "map"
  | .tables _ => "sequence"

end Toml

open Toml (Node Key Entries)

/-- The node is not of the kind that is wanted. -/
def Problem.kind (node : Node) (expected : String) : Problem :=
  { span := node.span, misfit := .kind node.found expected }

/-- Reads the value of a setting. -/
def Setting.read (s : Setting) : Node → Except Problem String
  | .scalar (.string text) _ => .ok text
  | node => .error (.kind node s.expected)

namespace SettingGroup

/-- The setting of the group with the given name. -/
def find? (g : SettingGroup) (name : String) : Option Setting :=
  g.settings.find? (·.name == name)

/-- A key that is no setting of the group. -/
def unknown (g : SettingGroup) (name : String) (span : Toml.Span) : Problem :=
  { span, misfit := .unknown name (g.settings.map Setting.name) }

/-- Reads one entry of the group's table. -/
def readEntry (g : SettingGroup) : Key × Node → Except Problem (Setting × String)
  | (key, node) =>
    match g.find? key.name with
    | some s => (s.read node).map (s, ·)
    | none => .error (g.unknown key.name key.span)

/-- Reads the settings of a group from the items of an array, in order. Items
    that are left over do not count. -/
def readItems (g : SettingGroup) (span : Toml.Span) (length : Nat) :
    List Setting → List Node → Except Problem (List (Setting × String))
  | [], _ => .ok []
  | _ :: _, [] => .error { span, misfit := .short length g }
  | s :: ss, node :: nodes => do
    let text ← s.read node
    return (s, text) :: (← readItems g span length ss nodes)

/-- Reads what a group of a document says. A date is a table with one key of
    its own that is never wanted. -/
def read (g : SettingGroup) (node : Node) : Except Problem (List (Setting × String)) :=
  match node with
  | .table _ entries _ => entries.mapM g.readEntry
  | .array items span => g.readItems span items.length g.settings items
  | .tables items =>
    g.readItems node.span items.length g.settings
      (items.map fun (entries, span) => .table .header entries span)
  | .scalar .datetime span => .error (g.unknown "$__toml_private_datetime" span)
  | .scalar _ _ => .error (.kind node g.expected)

/-- The group with the given name. -/
def ofName? (name : String) : Option SettingGroup :=
  all.find? (·.name == name)

/-- Reads one entry of the document. -/
def readTop : Key × Node → Except Problem (List (Setting × String))
  | (key, node) =>
    match ofName? key.name with
    | some g => g.read node
    | none => .error { span := key.span, misfit := .unknown key.name (all.map name) }

end SettingGroup

namespace SettingsFile

/-- Reads the settings of a document. -/
def ofEntries (entries : Entries) : Except Problem SettingsFile :=
  (entries.mapM SettingGroup.readTop).map fun values => ofList values.flatten

/-- Reads a settings file. -/
def parse (text : String) : Except ParseError SettingsFile :=
  match Toml.parse? text.toList with
  | none => .error .malformed
  | some entries => (ofEntries entries).mapError (.problem text)

end SettingsFile

end KeywordTable
