import KeywordTable.Text.Basic

/-!
# Modes of a Pattern

How a stretch of a pattern is to be read. Three switches matter for what is a
pattern: whether it speaks of characters or of bytes, whether upper and lower
case are the same, and whether blanks and comments may stand between its parts.
The other switches only change what is matched.

Switches are written as letters; those after a dash are turned off. No letter
and no dash comes twice, and the dash is not the last.

## Main definitions

* `Mode`: How a stretch of a pattern is to be read.
* `Mode.skip`: What comes after blanks and comments.
* `Mode.switch?`: The mode after some switches.
-/

namespace KeywordTable

namespace Log

namespace Pattern

/-- How a stretch of a pattern is to be read. -/
structure Mode where
  /-- Characters are meant, not bytes. -/
  unicode : Bool := true
  /-- Upper and lower case are the same. -/
  caseless : Bool := false
  /-- Blanks and comments may stand between the parts. -/
  spaced : Bool := false
  deriving Repr, DecidableEq

/-- What comes after blanks and comments. A comment ends with its line. -/
def skipBlanks (inComment : Bool) : List Char → List Char
  | [] => []
  | c :: cs =>
    if inComment then skipBlanks (c != '\n') cs
    else if Text.isBlank c then skipBlanks false cs
    else if c = '#' then skipBlanks true cs
    else c :: cs

namespace Mode

/-- What comes after blanks and comments, where there may be any. -/
def skip (mode : Mode) (cs : List Char) : List Char :=
  if mode.spaced then skipBlanks false cs else cs

/-- The next character that counts. A comment is not passed over, only the sign
    that starts it. -/
def peek? (mode : Mode) (cs : List Char) : Option Char :=
  if mode.spaced then
    match cs.dropWhile Text.isBlank with
    | [] => cs.head?
    | '#' :: rest => (rest.dropWhile Text.isBlank).head? <|> cs.head?
    | c :: _ => some c
  else cs.head?

/-- The letters of the switches and the dash. -/
def switchLetters : List Char := ['i', 'm', 's', 'U', 'u', 'R', 'x', '-']

/-- No element comes twice. -/
def allDifferent : List Char → Bool
  | [] => true
  | c :: cs => !cs.contains c && allDifferent cs

/-- A switch after some letters. -/
def after (letters : List Char) (letter : Char) (value : Bool) : Bool :=
  if (letters.takeWhile (· != '-')).contains letter then true
  else if (letters.dropWhile (· != '-')).contains letter then false
  else value

/-- The mode after some switches. -/
def switch? (mode : Mode) (letters : List Char) : Option Mode :=
  if letters.all switchLetters.contains && allDifferent letters && letters.getLast? != some '-' then
    some { unicode := after letters 'u' mode.unicode
           caseless := after letters 'i' mode.caseless
           spaced := after letters 'x' mode.spaced }
  else none

end Mode

end Pattern

end Log

end KeywordTable
