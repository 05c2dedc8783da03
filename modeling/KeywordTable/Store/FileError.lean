import KeywordTable.Path

/-!
# File Errors

Everything that can go wrong with a file. A file that is kept in memory can only
be absent. On a disk it matters what was being done when the system refused, and
what the system said.

## Main definitions

* `Fault`: What the system says.
* `Action`: What was being done.
* `FileError`: Why a file could not be read or written.
* `FileError.message`: The error as messages show it.
-/

namespace KeywordTable

/-- What the system says. -/
inductive Fault where
  | missing
  | notDirectory
  | isDirectory
  | nameTooLong
  /-- The path has a null character in it. -/
  | nullInPath
  /-- The bytes are not UTF-8. -/
  | notText
  | other (text : String)
  deriving Repr, DecidableEq

/-- The fault in the words of the system. -/
def Fault.message : Fault → String
  | missing => "No such file or directory (os error 2)"
  | notDirectory => "Not a directory (os error 20)"
  | isDirectory => "Is a directory (os error 21)"
  | nameTooLong => "File name too long (os error 36)"
  | nullInPath => "file name contained an unexpected NUL byte"
  | notText => "stream did not contain valid UTF-8"
  | other text => text

/-- What was being done with a file. -/
inductive Action where
  | query
  | access
  | read
  | create
  deriving Repr, DecidableEq

/-- The action as messages name it. -/
def Action.message : Action → String
  | query => "query resolved metadata"
  | access => "open file"
  | read => "read from file"
  | create => "create file"

/-- Why a file could not be read or written. -/
inductive FileError where
  /-- No file is kept under the path. -/
  | absent (path : Path)
  /-- The file has more bytes than are read. -/
  | tooLarge (path : Path)
  /-- The system refused. -/
  | failed (action : Action) (path : Path) (fault : Fault)
  deriving Repr, DecidableEq

namespace FileError

/-- The most bytes that a file may have to be read. -/
def maxSize : Nat := 16 * 1024 * 1024

/-- The error as messages show it. -/
def message : FileError → String
  | absent path => "file not found: " ++ path.text
  | tooLarge path =>
    path.text ++ ": files over " ++ toString maxSize ++ " bytes are not supported"
  | failed action path fault =>
    "failed to " ++ action.message ++ " `" ++ path.text ++ "`: " ++ fault.message

/-- A file of this many bytes can be read. -/
def checkSize (path : Path) (bytes : Nat) : Except FileError Unit :=
  if maxSize < bytes then .error (.tooLarge path) else .ok ()

end FileError

end KeywordTable
