import KeywordTable.Store.FileError

/-!
# Files in Memory

Texts kept under paths, so that the generator can run without a disk. Two paths
with the same route lead to the same text, however they are written. Storing a
text replaces what was there. Writes are counted; placing a file is no write.

## Main definitions

* `Memory`: Texts kept under paths.
* `Memory.get?`: The text under a path.
* `Memory.insert`: Places a text under a path.
* `Memory.read`, `Memory.write`: The same as a generator does it.
-/

namespace KeywordTable

/-- Texts kept under paths. -/
structure Memory where
  files : List (Route × String) := []
  /-- How often a text was written. -/
  writes : Nat := 0
  deriving Repr, DecidableEq, Inhabited

namespace Memory

/-- The text under a path. -/
def get? (m : Memory) (p : Path) : Option String :=
  m.files.lookup p.route

/-- There is a text under the path. -/
def contains (m : Memory) (p : Path) : Bool :=
  (m.get? p).isSome

/-- Places a text under a path. -/
def insert (m : Memory) (p : Path) (text : String) : Memory :=
  { m with files := (p.route, text) :: m.files.filter (·.1 != p.route) }

/-- The text under a path, or why there is none. -/
def read (m : Memory) (p : Path) : Except FileError String :=
  match m.get? p with
  | some text => .ok text
  | none => .error (.absent p)

/-- Writes a text under a path. -/
def write (m : Memory) (p : Path) (text : String) : Memory :=
  { m.insert p text with writes := m.writes + 1 }

end Memory

end KeywordTable
