import KeywordTable.Toml.Node
import KeywordTable.Toml.Text

/-!
# Numbers, Dates and Times of a Document

A value that starts with a digit or a sign. Which kind it is shows early: four
digits and a hyphen begin a date, two digits and a colon a time, and a radix
mark or the first character after the whole part tells the numbers apart. So
the kind is settled before the value is read; only whether a time follows a date
is found out by trying.

Digits may be grouped by single underscores. A run of digits and underscores is
taken as a whole and then checked, since nothing that may follow a number is
one of these characters.

A number without a point or an exponent has to fit sixty-four bits with a sign.
A literal that rounds to positive infinity is refused, a negative one of the
same size is not.

## Main definitions

* `digitRun`: Reads grouped digits.
* `date`, `time`, `datetime`: Read a calendar date, a time of day, or both.
* `number`: Reads an integer or a floating point number.
* `numeric`: Reads any value that starts with a digit or a sign.
-/

namespace KeywordTable

namespace Toml

/-- Every underscore stands between two other characters, of which the first
    may have come before. -/
def isGrouped (after : Bool) : List Char → Bool
  | [] => after
  | c :: cs => if c = '_' then after && isGrouped false cs else isGrouped true cs

/-- Reads a run of grouped digits and returns the digits alone. -/
def digitRun (isDigit : Char → Bool) (cs : List Char) : Option (List Char × List Char) :=
  let inRun (c : Char) : Bool := isDigit c || c == '_'
  let run := cs.takeWhile inRun
  if isGrouped false run then some (run.filter (· != '_'), cs.dropWhile inRun) else none

/-- The number that the digits write in the given base. -/
def ofDigits (base : Nat) (cs : List Char) : Nat :=
  cs.foldl (fun n c => base * n + (hexDigit? c).getD 0) 0

/-- Reads the given character. -/
def expect (c : Char) : List Char → Option (List Char)
  | d :: cs => if d = c then some cs else none
  | [] => none

/-- Reads exactly `count` digits whose number lies between the two bounds. -/
def fixed (count low high : Nat) (cs : List Char) : Option (Nat × List Char) :=
  let ds := cs.take count
  let n := ofDigits 10 ds
  if ds.length = count ∧ ds.all Char.isDigit ∧ low ≤ n ∧ n ≤ high then some (n, cs.drop count)
  else none

/-! ### Dates and times -/

/-- The year has a twenty-ninth of February. -/
def isLeap (year : Nat) : Bool :=
  year % 4 == 0 && (year % 100 != 0 || year % 400 == 0)

/-- The number of days in a month. -/
def daysIn (year month : Nat) : Nat :=
  if month = 2 then (if isLeap year then 29 else 28)
  else if month = 4 ∨ month = 6 ∨ month = 9 ∨ month = 11 then 30
  else 31

/-- Reads a calendar date. -/
def date (cs : List Char) : Option (List Char) := do
  let (year, cs) ← fixed 4 0 9999 cs
  let cs ← expect '-' cs
  let (month, cs) ← fixed 2 1 12 cs
  let cs ← expect '-' cs
  let (_, cs) ← fixed 2 1 (daysIn year month) cs
  return cs

/-- Reads the part of a second after the point, if there is one. -/
def secondFraction : List Char → Option (List Char)
  | '.' :: cs => if (cs.takeWhile Char.isDigit).isEmpty then none else some (cs.dropWhile Char.isDigit)
  | cs => some cs

/-- Reads a time of day. A minute may end in a leap second. -/
def time (cs : List Char) : Option (List Char) := do
  let (_, cs) ← fixed 2 0 23 cs
  let cs ← expect ':' cs
  let (_, cs) ← fixed 2 0 59 cs
  let cs ← expect ':' cs
  let (_, cs) ← fixed 2 0 60 cs
  secondFraction cs

/-- Reads the distance of a time from the universal one. -/
def offset (cs : List Char) : Option (List Char) := do
  let (_, cs) ← fixed 2 0 23 cs
  let cs ← expect ':' cs
  let (_, cs) ← fixed 2 0 59 cs
  return cs

/-- Reads an offset, if there is one. -/
def offset? : List Char → Option (List Char)
  | 'Z' :: cs => some cs
  | 'z' :: cs => some cs
  | '+' :: cs => offset cs
  | '-' :: cs => offset cs
  | cs => some cs

/-- Reads a date, and a time after it if there is one. -/
def datetime (cs : List Char) : Option (List Char) := do
  let rest ← date cs
  match rest with
  | c :: after =>
    if c = 'T' ∨ c = 't' ∨ c = ' ' then
      match time after with
      | some after => offset? after
      | none => return rest
    else return rest
  | [] => return rest

/-! ### Numbers -/

/-- Reads the digits after a radix mark. -/
def radixInteger (base : Nat) (cs : List Char) : Option (Scalar × List Char) := do
  let (ds, rest) ← digitRun (fun c => (hexDigit? c).any (decide <| · < base)) cs
  let n := ofDigits base ds
  if n < Nat.pow 2 63 then return (.integer n, rest) else none

/-- Reads an exponent after its letter. -/
def exponent (cs : List Char) : Option (Int × List Char) :=
  match cs with
  | '-' :: cs => do
    let (ds, rest) ← digitRun Char.isDigit cs
    return (-(ofDigits 10 ds : Int), rest)
  | cs => do
    let cs := match cs with
      | '+' :: after => after
      | _ => cs
    let (ds, rest) ← digitRun Char.isDigit cs
    return (ofDigits 10 ds, rest)

/-- Reads the digits after a point, if there is one. -/
def fraction? : List Char → Option (Option (List Char) × List Char)
  | '.' :: cs => do
    let (ds, rest) ← digitRun Char.isDigit cs
    return (some ds, rest)
  | cs => some (none, cs)

/-- Reads an exponent with its letter, if there is one. -/
def exponent? : List Char → Option (Option Int × List Char)
  | 'e' :: cs => do
    let (n, rest) ← exponent cs
    return (some n, rest)
  | 'E' :: cs => do
    let (n, rest) ← exponent cs
    return (some n, rest)
  | cs => some (none, cs)

/-- The integer fits sixty-four bits. -/
def fits (negative : Bool) (n : Nat) : Bool :=
  if negative then n ≤ Nat.pow 2 63 else n < Nat.pow 2 63

/-- Reads a number after its sign. -/
def unsigned (negative : Bool) : List Char → Option (Scalar × List Char)
  | 'i' :: 'n' :: 'f' :: cs => some (.float (.infinite negative), cs)
  | 'n' :: 'a' :: 'n' :: cs => some (.float .nan, cs)
  | cs => do
    let (whole, rest) ← digitRun Char.isDigit cs
    -- A whole part of several digits does not start with a zero.
    if whole.head? = some '0' ∧ whole.length ≠ 1 then none
    let (frac, rest) ← fraction? rest
    let (exp, rest) ← exponent? rest
    match frac, exp with
    | none, none =>
      let n := ofDigits 10 whole
      if fits negative n then return (.integer (if negative then -n else n), rest) else none
    | _, _ =>
      let frac := frac.getD []
      let x := Binary64.ofDecimal negative (ofDigits 10 (whole ++ frac)) (exp.getD 0 - frac.length)
      if x = .infinite false then none else return (.float x, rest)

/-- Reads an integer or a floating point number. -/
def number : List Char → Option (Scalar × List Char)
  | '0' :: 'x' :: cs => radixInteger 16 cs
  | '0' :: 'o' :: cs => radixInteger 8 cs
  | '0' :: 'b' :: cs => radixInteger 2 cs
  | '-' :: cs => unsigned true cs
  | '+' :: cs => unsigned false cs
  | cs => unsigned false cs

/-- The text starts with `count` digits and the given mark. -/
def startsWith (count : Nat) (mark : Char) (cs : List Char) : Bool :=
  (fixed count 0 (Nat.pow 10 count) cs).any fun (_, rest) => rest.head? == some mark

/-- Reads any value that starts with a digit or a sign. -/
def numeric (cs : List Char) : Option (Scalar × List Char) :=
  if startsWith 4 '-' cs then (datetime cs).map (.datetime, ·)
  else if startsWith 2 ':' cs then (time cs).map (.datetime, ·)
  else number cs

end Toml

end KeywordTable
