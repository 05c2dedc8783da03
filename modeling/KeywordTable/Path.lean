import KeywordTable.Text.Basic

/-!
# Paths

A path is the text that was given for it, and is shown as that text; nothing is
ever tidied up. What it means is its route: whether it starts at the root, and
the names on the way. A slash more than needed and a name that is a single dot
add nothing to the route, except that a dot at the very start of a relative path
counts as a name. Two dots are a name like any other, since only a file system
knows where they lead. Two paths are the same if their routes are.

The ancestors of a path are found by cutting its text after each name of the
route. The cuts of a relative path begin with the empty path and those of an
absolute one with the root.

## Main definitions

* `Path`: A path as it was written.
* `Path.route`: What a path means.
* `Path.join`: A path taken from a directory.
* `Path.parent?`: The path without its last name.
* `Path.ancestors`: The path and all that it lies in, from the inside out.
-/

namespace KeywordTable

/-- A path as it was written. -/
structure Path where
  chars : List Char
  deriving Repr, DecidableEq, Inhabited

/-- Whether a path starts at the root, and the names on the way. -/
structure Route where
  absolute : Bool
  names : List (List Char)
  deriving Repr, DecidableEq, Inhabited

namespace Path

/-- The path with the given text. -/
def ofText (s : String) : Path := ⟨s.toList⟩

/-- The path as a string. -/
def text (p : Path) : String := .ofList p.chars

/-- The path starts at the root. -/
def isAbsolute (p : Path) : Bool :=
  p.chars.head? == some '/'

/-- The piece of a path is a name on its way, unless it stands at the start. -/
def isName (piece : List Char) : Bool :=
  piece != [] && piece != ['.']

/-- What the path means. -/
def route (p : Path) : Route :=
  match Text.split '/' p.chars with
  | first :: rest =>
    if p.isAbsolute then { absolute := true, names := rest.filter isName }
    else { absolute := false, names := [first].filter (· != []) ++ rest.filter isName }
  | [] => { absolute := false, names := [] }

/-- A path taken from a directory. An absolute one stands for itself. -/
def join (dir p : Path) : Path :=
  if p.isAbsolute then p
  else if dir.chars = [] ∨ dir.chars.getLast? = some '/' then ⟨dir.chars ++ p.chars⟩
  else ⟨dir.chars ++ '/' :: p.chars⟩

/-- The text up to the end of each name, where `before` is what comes before
    the pieces. -/
def cutsFrom (before : List Char) : List (List Char) → List Path
  | [] => []
  | piece :: rest =>
    let upTo := before ++ '/' :: piece
    if isName piece then ⟨upTo⟩ :: cutsFrom upTo rest else cutsFrom upTo rest

/-- The path cut after each name of its route, from the outside in. -/
def cuts (p : Path) : List Path :=
  match Text.split '/' p.chars with
  | first :: rest =>
    if p.isAbsolute then ⟨['/']⟩ :: cutsFrom [] rest
    else ⟨[]⟩ :: ([first].filter (· != [])).map Path.mk ++ cutsFrom first rest
  | [] => []

/-- The path without its last name. -/
def parent? (p : Path) : Option Path :=
  p.cuts.dropLast.getLast?

/-- The path and all that it lies in, from the inside out. -/
def ancestors (p : Path) : List Path :=
  p :: p.cuts.dropLast.reverse

end Path

end KeywordTable
