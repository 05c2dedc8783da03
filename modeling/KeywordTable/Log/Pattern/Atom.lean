import KeywordTable.Log.Pattern.Mode

/-!
# Atoms of a Pattern

The smallest parts of a pattern: a character that stands for itself, a kind of
characters, a boundary of words, an end of a line or of the text, and any
character at all. Most of them can be written with a backslash.

Nothing is known here of letters and case beyond ASCII, and a pattern never
matches half a character. So kinds and boundaries are only for bytes, a kind may
not be negated, any character is only for characters, and characters whose case
does not matter are only for bytes.

## Main definitions

* `Atom`: A smallest part of a pattern.
* `escaped?`: The atom after a backslash.
* `Mode.allows`, `Mode.allowsInSet`: The atom may stand here.
-/

namespace KeywordTable

namespace Log

namespace Pattern

/-- A smallest part of a pattern. -/
inductive Atom where
  /-- A character, which may be written as the number of a byte. -/
  | literal (c : Char) (asByte : Bool)
  /-- Digits, blanks or characters of words. -/
  | kind (negated : Bool)
  /-- A boundary of words. -/
  | boundary
  /-- An end of a line or of the text. -/
  | anchor
  /-- Any character. -/
  | any
  deriving Repr, DecidableEq

namespace Mode

/-- The atom may stand outside of sets. -/
def allows (mode : Mode) : Atom → Bool
  | .literal c asByte => if mode.unicode then !mode.caseless else !asByte || c.toNat < 0x80
  | .kind negated => !mode.unicode && !negated
  | .boundary => !mode.unicode
  | .anchor => true
  | .any => mode.unicode

/-- The atom may stand in a set. -/
def allowsInSet (mode : Mode) : Atom → Bool
  | .literal c _ => if mode.unicode then !mode.caseless else c.toNat < 0x80
  | .kind negated => !mode.unicode && !negated
  | .boundary | .anchor | .any => false

end Mode

/-- The value of a hexadecimal digit. -/
def hexDigit? (c : Char) : Option Nat :=
  if c.isDigit then some (c.toNat - '0'.toNat)
  else if 'a' ≤ c ∧ c ≤ 'f' then some (c.toNat - 'a'.toNat + 10)
  else if 'A' ≤ c ∧ c ≤ 'F' then some (c.toNat - 'A'.toNat + 10)
  else none

/-- The number that some hexadecimal digits write after another number. -/
def hexNumber? (mode : Mode) : Nat → Nat → List Char → Option (Nat × List Char)
  | 0, n, cs => some (n, cs)
  | _, _, [] => none
  | count + 1, n, c :: cs => do
    hexNumber? mode count (16 * n + (← hexDigit? c)) (mode.skip cs)

/-- The character that some hexadecimal digits write. -/
def hexLiteral? (mode : Mode) (digits : Nat) (cs : List Char) : Option (Atom × List Char) := do
  let (n, rest) ← hexNumber? mode digits 0 (mode.skip cs)
  if n.isValidChar then return (.literal (Char.ofNat n) (digits == 2), rest) else none

/-- The atom that one character after a backslash stands for. -/
def escapedAtom? (c : Char) : Option Atom :=
  match c with
  | 'd' | 's' | 'w' => some (.kind false)
  | 'D' | 'S' | 'W' => some (.kind true)
  | 'b' | 'B' | '<' | '>' => some .boundary
  | 'A' | 'z' => some .anchor
  | 'a' => some (.literal '\x07' false)
  | 'f' => some (.literal '\x0c' false)
  | 't' => some (.literal '\t' false)
  | 'n' => some (.literal '\n' false)
  | 'r' => some (.literal '\r' false)
  | 'v' => some (.literal '\x0b' false)
  | c => if c.toNat < 0x80 && !c.isAlphanum then some (.literal c false) else none

/-- The atom after a backslash. -/
def escaped? (mode : Mode) : List Char → Option (Atom × List Char)
  | [] => none
  | 'x' :: cs => hexLiteral? mode 2 cs
  | 'u' :: cs => hexLiteral? mode 4 cs
  | 'U' :: cs => hexLiteral? mode 8 cs
  | c :: cs => (escapedAtom? c).map fun atom => (atom, cs)

/-- The atom that a pattern starts with. -/
def atom? (mode : Mode) : List Char → Option (Atom × List Char)
  | [] => none
  | '\\' :: cs => escaped? mode cs
  | '.' :: cs => some (.any, cs)
  | '^' :: cs | '$' :: cs => some (.anchor, cs)
  | c :: cs => some (.literal c false, cs)

/-- The atom that a set goes on with. -/
def setAtom? (mode : Mode) : List Char → Option (Atom × List Char)
  | [] => none
  | '\\' :: cs => escaped? mode cs
  | c :: cs => some (.literal c false, cs)

end Pattern

end Log

end KeywordTable
