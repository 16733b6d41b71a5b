import TraceReconciler.Files.Path

/-!
# Reading and writing files

The four things that a store on disk does with files, in whatever monad they can be done, and what
can be wrong with them. The failures are those of the system, in its own words.
-/

namespace TraceReconciler

/-- Why a file could not be read or written. -/
inductive FileError where
  | missing
  | busy
  | exists
  | notDirectory
  | isDirectory
  | nameTooLong
  /-- A path with the character that no path may hold. -/
  | unexpectedNul
  /-- Any other failure. -/
  | other (message : String)
deriving DecidableEq

/-- The words of a failure that the system numbers. -/
def FileError.numbered (words number : String) : String :=
  words ++ " (os error " ++ number ++ ")"

/-- The message of a failure. -/
def FileError.message : FileError → String
  | .missing => numbered "No such file or directory" "2"
  | .busy => numbered "Device or resource busy" "16"
  | .exists => numbered "File exists" "17"
  | .notDirectory => numbered "Not a directory" "20"
  | .isDirectory => numbered "Is a directory" "21"
  | .nameTooLong => numbered "File name too long" "36"
  | .unexpectedNul => "file name contained an unexpected NUL byte"
  | .other m => m

/-- **A way to reach files.** -/
structure FileAccess (m : Type → Type) where
  /-- The content of a file. -/
  read : String → m (Except FileError ByteArray)
  /-- Makes a directory, and those above it, unless it is there. -/
  createDirectories : String → m (Except FileError Unit)
  /-- Makes the content of a file, which need not be there, a new one. -/
  write : String → ByteArray → m (Except FileError Unit)
  /-- Moves a file to another path, over the file that is there. -/
  rename : String → String → m (Except FileError Unit)

end TraceReconciler
