/-!
# Faults of the file store

The ways in which one file operation is refused, each with the text that messages show for it.

## Main definitions

* `Imprint.Store.Fault`: why an operation was refused.
* `Imprint.Store.Fault.message`: its text.
-/

namespace Imprint.Store

/-- Why a file operation was refused. -/
inductive Fault where
  /-- A name on the way or at the end of the path is not there. -/
  | notFound
  /-- The device failed. -/
  | deviceError
  /-- A file that may not be run. -/
  | notPermitted
  /-- The target is the directory that the path goes through. -/
  | busy
  /-- Something is there already. -/
  | alreadyThere
  /-- A file where a directory is needed. -/
  | notDirectory
  /-- A directory where a file is needed. -/
  | isDirectory
  /-- More bytes than a file may have. -/
  | fileTooLarge
  /-- More bytes than there is room for. -/
  | noSpace
  /-- A name or a path that is longer than the store takes. -/
  | nameTooLong
  /-- A path that holds the character with number zero. -/
  | nulInPath
  /-- A word for a program that holds the character with number zero. -/
  | nulInWord
  /-- A file whose bytes are no text. -/
  | notText
  deriving DecidableEq, Repr

/-- The text of a fault. -/
def Fault.message : Fault → String
  | .notFound => "No such file or directory (os error 2)"
  | .deviceError => "Input/output error (os error 5)"
  | .notPermitted => "Permission denied (os error 13)"
  | .busy => "Device or resource busy (os error 16)"
  | .alreadyThere => "File exists (os error 17)"
  | .notDirectory => "Not a directory (os error 20)"
  | .isDirectory => "Is a directory (os error 21)"
  | .fileTooLarge => "File too large (os error 27)"
  | .noSpace => "No space left on device (os error 28)"
  | .nameTooLong => "File name too long (os error 36)"
  | .nulInPath => "file name contained an unexpected NUL byte"
  | .nulInWord => "nul byte found in provided data"
  | .notText => "stream did not contain valid UTF-8"

instance : ToString Fault := ⟨Fault.message⟩

end Imprint.Store
