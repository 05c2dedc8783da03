import KeywordTable.Text.CaseData

/-!
# Lower Case

The lower case of a text by the Unicode default mapping. Letters are lowered
one by one, with a single exception: a capital sigma at the end of a word
becomes the final form `ς`. A sigma ends a word when a letter with case stands
before it and none stands after it, where marks, modifiers and apostrophes
between are passed over on both sides.

The text is walked with what has been passed so far held in reverse, so that
both neighbourhoods of a character are read outward from it.

## Main definitions

* `lowerChar`: The lower case of one character away from its context.
* `endsWord`: A sigma between these two contexts ends a word.
* `lower`: The lower case of a text.
-/

namespace KeywordTable

namespace Text

/-- The lower case of one character away from its context. -/
def lowerChar (c : Char) : List Char :=
  if c = '\u0130' then ['i', '\u0307']
  else match CaseRun.table.find? (·.contains c.toNat) with
    | some r => [Char.ofNat (r.apply c.toNat)]
    | none => [c]

/-- The first character that is not passed over has case. -/
def caseAhead (cs : List Char) : Bool :=
  match cs.dropWhile (CodeRange.covers CaseData.caseIgnorable) with
  | c :: _ => CodeRange.covers CaseData.cased c
  | [] => false

/-- A sigma with `before`, read outward, on its left and `after` on its right
    ends a word. -/
def endsWord (before after : List Char) : Bool :=
  caseAhead before && !caseAhead after

/-- The lower case of a character between two contexts. -/
def lowerAt (before : List Char) (c : Char) (after : List Char) : List Char :=
  if c = '\u03A3' then (if endsWord before after then ['\u03C2'] else ['\u03C3'])
  else lowerChar c

/-- Lowers the rest of a text after `before`, both `before` and the result so
    far being held in reverse. -/
def lowerFrom (before done : List Char) : List Char → List Char
  | [] => done.reverse
  | c :: rest => lowerFrom (c :: before) ((lowerAt before c rest).reverse ++ done) rest

/-- The lower case of a text. -/
def lower (cs : List Char) : List Char :=
  lowerFrom [] [] cs

end Text

end KeywordTable
