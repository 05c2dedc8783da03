import KeywordTable.Event
import KeywordTable.Store.Disk
import KeywordTable.Store.Memory
import KeywordTable.Terminal.Plain

/-!
# What a Run Asks For

A run asks for little from outside: files to be read and written, lines to be
printed, events to be logged, and how long something took. Everything else is
computed. `Host` lists these requests, and the code of a run is written for
every monad that can answer them.

The program itself runs with the real files. What a run does is stated for a
`World`, in which the files are a value and what was printed and logged is kept.
The files of a world may be kept in memory or on a disk; `FileStore` is what the
two have in common. Only a disk logs what is read and written.

## Main definitions

* `Host`: The requests of a run.
* `FileStore`: Files as a value.
* `World`: Files, and what a run has printed and logged.
* `Simulated`: Runs in a world.
-/

namespace KeywordTable

/-- The two streams that a run prints on. -/
inductive Stream where
  | out
  | err
  deriving Repr, DecidableEq

/-- The requests of a run. -/
class Host (m : Type → Type) where
  /-- The path leads to a file. -/
  isFile : Path → m Bool
  /-- The text of a file of any size. -/
  load : Path → m (Except FileError String)
  /-- The text of a file that is not too large. -/
  read : Path → m (Except FileError String)
  /-- Replaces the text of a file. -/
  write : Path → String → m (Except FileError Unit)
  /-- Prints text on a stream that is to understand escape sequences or not. -/
  print (stream : Stream) (styled : Bool) (text : String) : m Unit
  log : Event → m Unit
  /-- Does something and tells how many nanoseconds it took. -/
  timed {α : Type} : m α → m (α × Nat)

/-- Files as a value. -/
class FileStore (σ : Type) where
  isFile : σ → Path → Bool
  load : σ → Path → Except FileError String
  read : σ → Path → Except FileError String
  /-- The events of reading. -/
  readEvents : σ → Path → List Event
  write : σ → Path → String → Except FileError σ
  /-- The events of writing. -/
  writeEvents : σ → Path → String → List Event

instance : FileStore Memory where
  isFile := Memory.contains
  load := Memory.read
  read := Memory.read
  readEvents _ _ := []
  write m p text := .ok (m.write p text)
  writeEvents _ _ _ := []

/-- The events of reading a file from a disk. -/
def Disk.readEvents (d : Disk) (p : Path) : List Event :=
  match d.size p with
  | .ok bytes => if bytes ≤ FileError.maxSize then [.reading p bytes] else []
  | .error _ => []

instance : FileStore Disk where
  isFile := Disk.isFile
  load := Disk.load
  read := Disk.read
  readEvents := Disk.readEvents
  write := Disk.write
  writeEvents _ p text := [.writing p text.utf8ByteSize]

/-- Files, and what a run has printed and logged. -/
structure World (σ : Type) where
  store : σ
  out : Terminal.Printed := {}
  err : Terminal.Printed := {}
  log : Array Event := #[]

/-- Runs in a world. -/
abbrev Simulated (σ : Type) := StateM (World σ)

namespace World

variable {σ : Type}

/-- The world after something was printed. -/
def print (w : World σ) (stream : Stream) (styled : Bool) (text : String) : World σ :=
  match stream with
  | .out => { w with out := w.out.add styled text }
  | .err => { w with err := w.err.add styled text }

/-- The world after some events. -/
def addEvents (w : World σ) (events : List Event) : World σ :=
  { w with log := w.log ++ events }

end World

/-- A world answers from its files. Nothing takes any time in it. -/
instance {σ : Type} [FileStore σ] : Host (Simulated σ) where
  isFile p := do return FileStore.isFile (← get).store p
  load p := do return FileStore.load (← get).store p
  read p := do
    let w ← get
    set (w.addEvents (FileStore.readEvents w.store p))
    return FileStore.read w.store p
  write p text := do
    let w ← get
    let w := w.addEvents (FileStore.writeEvents w.store p text)
    match FileStore.write w.store p text with
    | .ok store => set { w with store }; return .ok ()
    | .error e => set w; return .error e
  print stream styled text := modify (·.print stream styled text)
  log event := modify (·.addEvents [event])
  timed act := do return (← act, 0)

end KeywordTable
