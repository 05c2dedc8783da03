/-!
# Characters and Strings of a Document

The four kinds of string and the character classes they are made of. A string
either keeps its characters as they are or knows escapes, and either stays on
one line or runs over several; each combination is a walk over the text that
collects the value in reverse and returns it with what is left.

In a string over several lines a line ending counts as a line feed whatever it
was, and one directly after the opening quotes is dropped. Up to two quotes may
stand before the closing three. After a backslash at the end of a line all
blanks and line endings are skipped; the walk carries that as a flag, so that
it still moves one character at a time.

## Main definitions

* `isPlain`: The character may stand in a comment.
* `newline`: Reads a line ending.
* `basicString`, `literalString`: Strings on one line.
* `string`: Any string.
-/

namespace KeywordTable

namespace Toml

/-- The character may stand in a comment: anything but the controls, of which
    a tab is allowed. -/
def isPlain (c : Char) : Bool :=
  c == '\t' || (0x20 ≤ c.toNat && c.toNat != 0x7F)

/-- The character is a blank within a line. -/
def isSpace (c : Char) : Bool :=
  c == ' ' || c == '\t'

/-- Reads a line ending. -/
def newline : List Char → Option (List Char)
  | '\n' :: cs => some cs
  | '\r' :: '\n' :: cs => some cs
  | _ => none

/-- The text without a line ending at its start, if there is one. -/
def dropNewline (cs : List Char) : List Char :=
  (newline cs).getD cs

/-- The value of a hexadecimal digit. -/
def hexDigit? (c : Char) : Option Nat :=
  if c.isDigit then some (c.toNat - '0'.toNat)
  else if 'a' ≤ c && c ≤ 'f' then some (c.toNat - 'a'.toNat + 10)
  else if 'A' ≤ c && c ≤ 'F' then some (c.toNat - 'A'.toNat + 10)
  else none

/-- The number that the hexadecimal digits write. -/
def hexNumber? (cs : List Char) : Option Nat :=
  cs.foldlM (fun n c => (hexDigit? c).map (16 * n + ·)) 0

/-- The character whose number the hexadecimal digits write. -/
def charOfHex? (cs : List Char) : Option Char :=
  (hexNumber? cs).bind fun n => if n.isValidChar then some (Char.ofNat n) else none

/-- The character that an escape of one letter stands for. -/
def escaped? : Char → Option Char
  | 'b' => some '\x08'
  | 't' => some '\t'
  | 'n' => some '\n'
  | 'f' => some '\x0c'
  | 'r' => some '\r'
  | '"' => some '"'
  | '\\' => some '\\'
  | _ => none

/-- The rest of a string on one line that knows escapes. -/
def basicRest (done : List Char) : List Char → Option (List Char × List Char)
  | [] => none
  | '"' :: cs => some (done.reverse, cs)
  | '\\' :: 'u' :: a :: b :: c :: d :: cs =>
    match charOfHex? [a, b, c, d] with
    | some x => basicRest (x :: done) cs
    | none => none
  | '\\' :: 'U' :: a :: b :: c :: d :: e :: f :: g :: h :: cs =>
    match charOfHex? [a, b, c, d, e, f, g, h] with
    | some x => basicRest (x :: done) cs
    | none => none
  | '\\' :: e :: cs =>
    match escaped? e with
    | some x => basicRest (x :: done) cs
    | none => none
  | c :: cs => if isPlain c && c != '\\' then basicRest (c :: done) cs else none

/-- The rest of a string on one line that keeps its characters. -/
def literalRest (done : List Char) : List Char → Option (List Char × List Char)
  | [] => none
  | c :: cs =>
    if c = '\'' then some (done.reverse, cs)
    else if isPlain c then literalRest (c :: done) cs
    else none

/-- What is left after three closing quotes, if they are there. One or two
    more quotes before them belong to the string and are returned first. -/
def closing? (q : Char) : List Char → Option (List Char × List Char)
  | a :: b :: c :: cs =>
    if a = q ∧ b = q ∧ c = q then
      match cs with
      | d :: e :: rest =>
        if d = q ∧ e = q then some ([q, q], rest)
        else if d = q then some ([q], e :: rest)
        else some ([], d :: e :: rest)
      | [d] => if d = q then some ([q], []) else some ([], [d])
      | [] => some ([], [])
    else none
  | _ => none

/-- A line ending follows, with at most blanks before it. -/
def endsLine (cs : List Char) : Bool :=
  (newline (cs.dropWhile isSpace)).isSome

/-- The rest of a string over several lines that knows escapes. While
    `skipping`, blanks and line endings are passed over. -/
def longBasicRest (skipping : Bool) (done : List Char) :
    List Char → Option (List Char × List Char)
  | [] => none
  | '\r' :: '\n' :: cs => longBasicRest skipping (if skipping then done else '\n' :: done) cs
  | '\n' :: cs => longBasicRest skipping (if skipping then done else '\n' :: done) cs
  | '"' :: cs =>
    match closing? '"' ('"' :: cs) with
    | some (quotes, rest) => some ((quotes ++ done).reverse, rest)
    | none => longBasicRest false ('"' :: done) cs
  | '\\' :: 'u' :: a :: b :: c :: d :: cs =>
    match charOfHex? [a, b, c, d] with
    | some x => longBasicRest false (x :: done) cs
    | none => none
  | '\\' :: 'U' :: a :: b :: c :: d :: e :: f :: g :: h :: cs =>
    match charOfHex? [a, b, c, d, e, f, g, h] with
    | some x => longBasicRest false (x :: done) cs
    | none => none
  | '\\' :: e :: cs =>
    match escaped? e with
    | some x => longBasicRest false (x :: done) cs
    | none => if endsLine (e :: cs) then longBasicRest true done (e :: cs) else none
  | c :: cs =>
    if skipping && isSpace c then longBasicRest true done cs
    else if isPlain c && c != '\\' then longBasicRest false (c :: done) cs
    else none

/-- The rest of a string over several lines that keeps its characters. -/
def longLiteralRest (done : List Char) : List Char → Option (List Char × List Char)
  | [] => none
  | '\r' :: '\n' :: cs => longLiteralRest ('\n' :: done) cs
  | '\n' :: cs => longLiteralRest ('\n' :: done) cs
  | c :: cs =>
    if c = '\'' then
      match closing? '\'' (c :: cs) with
      | some (quotes, rest) => some ((quotes ++ done).reverse, rest)
      | none => longLiteralRest (c :: done) cs
    else if isPlain c then longLiteralRest (c :: done) cs
    else none

/-- Reads any string. -/
def string : List Char → Option (List Char × List Char)
  | '"' :: '"' :: '"' :: cs => longBasicRest false [] (dropNewline cs)
  | '"' :: cs => basicRest [] cs
  | '\'' :: '\'' :: '\'' :: cs => longLiteralRest [] (dropNewline cs)
  | '\'' :: cs => literalRest [] cs
  | _ => none

end Toml

end KeywordTable
