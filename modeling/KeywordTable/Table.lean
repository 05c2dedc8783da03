import KeywordTable.Layout
import KeywordTable.Word

/-!
# The Keyword Table

The header file that is generated: a map from the spelling of each keyword to
its enumerator, with the lines that make it compile. Three names in it can be
chosen, the rest is fixed. All entries stand on one line, each with a comma
after it, also the last one.

## Main definitions

* `Template`: The names that can be chosen.
* `Word.entry`: The entry of one word.
* `Template.table`: The table of some words.
-/

namespace KeywordTable

/-- The names in the generated file that can be chosen. -/
structure Template where
  /-- The file that declares the enumeration. -/
  header : String := "token.h"
  /-- The type of the enumeration. -/
  enumType : String := "TokenType"
  /-- The name of the table. -/
  tableName : String := "str2token"
  deriving Repr, DecidableEq, Inhabited

/-- The entry of one word: its spelling between quotes, and the word itself. -/
def Word.entry (word : Word) : String :=
  "\x7b \"" ++ word.key ++ "\", " ++ word.text ++ " \x7d,"

/-- The entries of some words, one after the other. -/
def Word.entries (words : List Word) : String :=
  String.join (words.map Word.entry)

namespace Template

/-- The lines of the table of some words. -/
def steps (template : Template) (words : List Word) : List Layout.Step := [
  .blank,
  .line ("#include \"" ++ template.header ++ "\""),
  .blank,
  .line "#include <map>",
  .line "#include <string>",
  .block
    ("const static std::map<std::string, " ++ template.enumType ++ "> " ++ template.tableName
      ++ " = \x7b")
    "\x7d;"
    [.line (Word.entries words)],
  .blank]

/-- The table of some words. -/
def table (template : Template) (words : List Word) : String :=
  Layout.render 2 (template.steps words)

end Template

end KeywordTable
