import KeywordTable.Proofs.Collisions
import KeywordTable.Proofs.Numerals
import KeywordTable.Proofs.Spelling
import KeywordTable.Toml.Grammar

/-!
# The Format of a Document

What a document looks like, as relations between stretches of text and what they
say. They follow the published grammar of the format, rule by rule: where blanks
and comments may stand, the three kinds of keys, arrays with line endings and a
comma at the end, tables in braces without either. Where the grammar leaves open
how deep values may be nested and how many keys a path may have, a bound is
part of the relation, so that one can speak of the documents within a bound and
of those beyond it.

A table in braces belongs to the format only if none of its keys is given twice.
The keys of the document itself are another matter, since headers can come back
to a table.

## Main definitions

* `Blank`, `Gap`: What may stand between the parts of a line and of an array.
* `IsKey`, `IsPath`: Keys and dotted keys.
* `IsItems`, `IsTable`: Arrays and tables in braces.
* `IsValue`: A value that is nested so deep at most.
* `IsLine`: What a line says.
* `IsDocument`: A whole document.
-/

namespace KeywordTable

namespace Toml

/-! ### Blanks and comments -/

/-- Blanks within a line. -/
def Blank (cs : List Char) : Prop :=
  ∀ c ∈ cs, c = ' ' ∨ c = '\t'

theorem blank_nil : Blank [] :=
  fun _ h => absurd h List.not_mem_nil

/-- What may stand between the items of an array: blanks, line endings, and
    comments up to a line ending. -/
inductive Gap : List Char → Prop
  | nil : Gap []
  | blank {c : Char} {cs : List Char} (hc : c = ' ' ∨ c = '\t') (h : Gap cs) : Gap (c :: cs)
  | newline {ending cs : List Char} (hending : IsNewline ending) (h : Gap cs) : Gap (ending ++ cs)
  | comment {body ending cs : List Char} (hbody : ∀ c ∈ body, Printable c)
    (hending : IsNewline ending) (h : Gap cs) : Gap ('#' :: (body ++ (ending ++ cs)))

/-- The rest of a line that says nothing more. -/
inductive IsEnd : List Char → Prop
  | blank {cs : List Char} (h : Blank cs) : IsEnd cs
  | comment {blanks body : List Char} (hblanks : Blank blanks) (hbody : ∀ c ∈ body, Printable c) :
    IsEnd (blanks ++ '#' :: body)

/-! ### Keys -/

/-- One key and its name. -/
inductive IsKey : List Char → String → Prop
  | bare {cs : List Char} (hne : cs ≠ [])
    (h : ∀ c ∈ cs, c.isAlphanum = true ∨ c = '_' ∨ c = '-') : IsKey cs (.ofList cs)
  | basic {body text : List Char} (h : Spells body text) :
    IsKey ('"' :: (body ++ ['"'])) (.ofList text)
  | literal {text : List Char} (h : ∀ c ∈ text, c ≠ '\'' ∧ Printable c) :
    IsKey ('\'' :: (text ++ ['\''])) (.ofList text)

/-- Keys with dots between them, and the blanks around them. -/
inductive IsPath : List Char → List String → Prop
  | last {before cs after : List Char} {name : String} (hbefore : Blank before)
    (hkey : IsKey cs name) (hafter : Blank after) : IsPath (before ++ (cs ++ after)) [name]
  | dot {before cs after rest : List Char} {name : String} {names : List String}
    (hbefore : Blank before) (hkey : IsKey cs name) (hafter : Blank after)
    (h : IsPath rest names) : IsPath (before ++ (cs ++ (after ++ '.' :: rest))) (name :: names)

/-! ### Values -/

/-- A value that holds no other values. -/
inductive IsSimple : List Char → Value → Prop
  | string {cs text : List Char} (h : IsString cs text) : IsSimple cs (.string (.ofList text))
  | atom {cs : List Char} (h : IsAtom cs) : IsSimple cs .other

section

variable (limit : Nat) (item : List Char → Value → Prop)

/-- The items of an array up to the closing bracket. -/
inductive IsItems : List Char → List Value → Prop
  | nil {gap : List Char} (hgap : Gap gap) : IsItems (gap ++ [']']) []
  | last {before cs after : List Char} {v : Value} (hbefore : Gap before) (hitem : item cs v)
    (hafter : Gap after) : IsItems (before ++ (cs ++ (after ++ [']']))) [v]
  | cons {before cs after rest : List Char} {v : Value} {vs : List Value} (hbefore : Gap before)
    (hitem : item cs v) (hafter : Gap after) (h : IsItems rest vs) :
    IsItems (before ++ (cs ++ (after ++ ',' :: rest))) (v :: vs)

/-- A key, the equals sign and a value. -/
inductive IsPair : List Char → List String × Value → Prop
  | mk {key blanks cs : List Char} {path : List String} {v : Value} (hpath : IsPath key path)
    (hlimit : path.length ≤ limit) (hblanks : Blank blanks) (hitem : item cs v) :
    IsPair (key ++ '=' :: (blanks ++ cs)) (path, v)

/-- The pairs of a table in braces up to the closing brace. -/
inductive IsPairs : List Char → List (List String × Value) → Prop
  | last {cs after : List Char} {w : List String × Value} (hpair : IsPair limit item cs w)
    (hafter : Blank after) : IsPairs (cs ++ (after ++ ['\x7d'])) [w]
  | cons {cs after rest : List Char} {w : List String × Value} {ws : List (List String × Value)}
    (hpair : IsPair limit item cs w) (hafter : Blank after) (h : IsPairs rest ws) :
    IsPairs (cs ++ (after ++ ',' :: rest)) (w :: ws)

/-- A table in braces after the opening one, in which no key is given twice. -/
inductive IsTable : List Char → List (List String × Value) → Prop
  | empty {blanks : List Char} (hblanks : Blank blanks) : IsTable (blanks ++ ['\x7d']) []
  | pairs {cs : List Char} {ws : List (List String × Value)} (h : IsPairs limit item cs ws)
    (hapart : ws.Pairwise fun w w' => Apart w.1 w'.1) : IsTable cs ws

/-- A value whose items and entries are as given. -/
inductive IsNested : List Char → Value → Prop
  | simple {cs : List Char} {v : Value} (h : IsSimple cs v) : IsNested cs v
  | array {cs : List Char} {vs : List Value} (h : IsItems item cs vs) :
    IsNested ('[' :: cs) (.array vs)
  | table {cs : List Char} {ws : List (List String × Value)} (h : IsTable limit item cs ws) :
    IsNested ('\x7b' :: cs) (.table ws)

end

/-- A value that holds arrays and tables at most `depth` deep. -/
def IsValue (limit : Nat) : Nat → List Char → Value → Prop
  | 0 => IsSimple
  | depth + 1 => IsNested limit (IsValue limit depth)

/-! ### Documents -/

/-- A line that says something, without its end. -/
inductive IsLine (limit : Nat) : List Char → Line → Prop
  | pair {cs : List Char} {path : List String} {v : Value}
    (h : IsPair limit (IsValue limit limit) cs (path, v)) : IsLine limit cs (.pair path v)
  | header {blanks key : List Char} {path : List String} (hblanks : Blank blanks)
    (hpath : IsPath key path) (hlimit : path.length ≤ limit) :
    IsLine limit (blanks ++ '[' :: (key ++ [']'])) (.header path false)
  | arrayHeader {blanks key : List Char} {path : List String} (hblanks : Blank blanks)
    (hpath : IsPath key path) (hlimit : path.length ≤ limit) :
    IsLine limit (blanks ++ '[' :: '[' :: (key ++ [']', ']'])) (.header path true)

/-- A document whose values and paths are within the limit. -/
inductive IsDocument (limit : Nat) : List Char → List Line → Prop
  | done {cs : List Char} (hend : IsEnd cs) : IsDocument limit cs []
  | last {cs tail : List Char} {line : Line} (hline : IsLine limit cs line) (hend : IsEnd tail) :
    IsDocument limit (cs ++ tail) [line]
  | skip {tail ending rest : List Char} {lines : List Line} (hend : IsEnd tail)
    (hending : IsNewline ending) (h : IsDocument limit rest lines) :
    IsDocument limit (tail ++ (ending ++ rest)) lines
  | cons {cs tail ending rest : List Char} {line : Line} {lines : List Line}
    (hline : IsLine limit cs line) (hend : IsEnd tail) (hending : IsNewline ending)
    (h : IsDocument limit rest lines) :
    IsDocument limit (cs ++ (tail ++ (ending ++ rest))) (line :: lines)

/-! ### Plain lines -/

/-- A simple value is one of every depth. -/
theorem isValue_simple {limit : Nat} (depth : Nat) {cs : List Char} {v : Value}
    (h : IsSimple cs v) : IsValue limit depth cs v := by
  cases depth with
  | zero => exact h
  | succ depth => exact .simple h

/-- Any spelling of a text is a value. -/
theorem isValue_spelling {limit : Nat} (depth : Nat) {text : String} (spelling : Spelling text) :
    IsValue limit depth ('"' :: (spelling.body ++ ['"'])) (.string text) := by
  have hstring := IsSimple.string (.basic spelling.spells)
  rw [String.ofList_toList] at hstring
  exact isValue_simple depth hstring

/-- A name of letters, digits and such is a path without quotes. -/
theorem isPath_name {name : String} (hne : name.toList ≠ [])
    (h : ∀ c ∈ name.toList, c.isAlphanum = true ∨ c = '_' ∨ c = '-') {after : List Char}
    (hafter : Blank after) : IsPath (name.toList ++ after) [name] := by
  have hkey : IsKey name.toList (.ofList name.toList) := .bare hne h
  rw [String.ofList_toList] at hkey
  exact .last blank_nil hkey hafter

/-- A line can be put before a document. -/
theorem isDocument_line {limit : Nat} {cs rest : List Char} {line : Line} {lines : List Line}
    (hline : IsLine limit cs line) (h : IsDocument limit rest lines) :
    IsDocument limit (cs ++ '\n' :: rest) (line :: lines) :=
  .cons hline (.blank blank_nil) (Or.inl rfl) h

end Toml

end KeywordTable
