import KeywordTable.Store.FileError
import KeywordTable.Text.Basic

/-!
# Files on a Disk

A disk is a tree of directories and files as a system shows it, without links
and with nothing forbidden. A place in the tree is given by the names that lead
to it, the innermost first, so the directory around a place is its tail. The
root has no names and is always a directory.

A path is followed name by name, and every place that a name is looked for in
has to be a directory. That holds for single and double dots too, and a slash at
the end asks for a directory as well. So the first name that cannot be followed
decides the fault.

A file is opened for writing by a rule of its own: the last name need not be
there, but what it stands for must not be a directory, and neither a slash nor
dots may come at the end.

## Main definitions

* `Place`: A place in the tree.
* `Disk`: A tree of directories and files, and where relative paths start.
* `Disk.find`: The place that a path leads to.
* `Disk.load`: The text of a file.
* `Disk.read`: The text of a file that is not too large.
* `Disk.write`: Replaces the text of a file.
-/

namespace KeywordTable

/-- A place in the tree: the names that lead to it, the innermost first. -/
abbrev Place := List (List Char)

/-- What stands at a place. -/
inductive DiskNode where
  | directory
  | file (bytes : ByteArray)

/-- A tree of directories and files, and the place where relative paths
    start. -/
structure Disk where
  nodes : List (Place × DiskNode) := []
  cwd : Place := []

namespace Disk

/-- The most bytes that a name may have. -/
def maxName : Nat := 255

/-- The number of bytes from which on a path is too long. -/
def pathLimit : Nat := 4096

/-- The bytes that a directory takes. -/
def directorySize : Nat := 4096

/-- What stands at a place. -/
def node? (d : Disk) (place : Place) : Option DiskNode :=
  if place = [] then some .directory else d.nodes.lookup place

/-- Puts a node at a place. -/
def put (d : Disk) (place : Place) (node : DiskNode) : Disk :=
  { d with nodes := (place, node) :: d.nodes.filter (·.1 != place) }

/-- The place where a path starts. -/
def start (d : Disk) (p : Path) : Place :=
  if p.isAbsolute then [] else d.cwd

/-- The names of a path as they have to be followed. -/
def names (p : Path) : List (List Char) :=
  (Text.split '/' p.chars).filter (· != [])

/-- The path ends in a slash. -/
def endsInSlash (p : Path) : Bool :=
  p.chars.getLast? == some '/'

/-- Nothing can be looked for under such a path. -/
def refuse? (p : Path) : Option Fault :=
  if '\x00' ∈ p.chars then some .nullInPath
  else if p.chars = [] then some .missing
  else if pathLimit ≤ p.text.utf8ByteSize then some .nameTooLong
  else none

/-- Follows one name. -/
def step (d : Disk) (place : Place) (name : List Char) : Except Fault Place :=
  match d.node? place with
  | none => .error .missing
  | some (.file _) => .error .notDirectory
  | some .directory =>
    if name = ['.'] then .ok place
    else if name = ['.', '.'] then .ok place.tail
    else if maxName < (String.ofList name).utf8ByteSize then .error .nameTooLong
    else .ok (name :: place)

/-- Follows names. -/
def follow (d : Disk) (place : Place) (names : List (List Char)) : Except Fault Place :=
  names.foldlM d.step place

/-- What a path leads to. -/
def find (d : Disk) (p : Path) : Except Fault DiskNode := do
  if let some fault := refuse? p then throw fault
  let place ← d.follow (d.start p) (names p)
  match d.node? place with
  | none => throw .missing
  | some (.file bytes) => if endsInSlash p then throw .notDirectory else return .file bytes
  | some .directory => return .directory

/-- The path leads to a file. -/
def isFile (d : Disk) (p : Path) : Bool :=
  match d.find p with
  | .ok (.file _) => true
  | _ => false

/-- The number of bytes that a path leads to. -/
def size (d : Disk) (p : Path) : Except FileError Nat :=
  match d.find p with
  | .error fault => .error (.failed .query p fault)
  | .ok .directory => .ok directorySize
  | .ok (.file bytes) => .ok bytes.size

/-- The text of a file. -/
def load (d : Disk) (p : Path) : Except FileError String :=
  match d.find p with
  | .error fault => .error (.failed .access p fault)
  | .ok .directory => .error (.failed .read p .isDirectory)
  | .ok (.file bytes) =>
    match String.fromUTF8? bytes with
    | some text => .ok text
    | none => .error (.failed .read p .notText)

/-- The text of a file that is not too large. -/
def read (d : Disk) (p : Path) : Except FileError String := do
  FileError.checkSize p (← d.size p)
  d.load p

/-- The place of a file to be written. -/
def target (d : Disk) (p : Path) : Except Fault Place := do
  if let some fault := refuse? p then throw fault
  match (names p).getLast? with
  | none => throw .isDirectory
  | some last =>
    let dir ← d.follow (d.start p) (names p).dropLast
    let place ← if last = ['.'] ∨ last = ['.', '.'] ∨ endsInSlash p then
        -- The directory still has to be one for the name to be looked at.
        d.step dir ['.'] >>= fun _ => throw .isDirectory
      else d.step dir last
    match d.node? place with
    | some .directory => throw .isDirectory
    | _ => return place

/-- Replaces the text of a file, which is made if it is not there. -/
def write (d : Disk) (p : Path) (text : String) : Except FileError Disk :=
  match d.target p with
  | .error fault => .error (.failed .create p fault)
  | .ok place => .ok (d.put place (.file text.toUTF8))

/-- The path of the place where relative paths start. -/
def cwdPath (d : Disk) : Path :=
  if d.cwd = [] then ⟨['/']⟩ else ⟨d.cwd.reverse.flatMap ('/' :: ·)⟩

end Disk

end KeywordTable
