import TraceReconciler.CommandLine.Run

/-!
# The command

Runs an invocation over the files, the variables and the clock of the system.
-/

namespace TraceReconciler.CommandLine

/-- What a failure of the system means. -/
def fileErrorOf : IO.Error → FileError
  | .noFileOrDirectory _ _ _ => .missing
  | .resourceBusy _ _ => .busy
  | .alreadyExists _ _ _ => .exists
  | .inappropriateType _ code _ => if code = 20 then .notDirectory else .isDirectory
  | .invalidArgument _ 36 _ => .nameTooLong
  | e => .other (toString e)

/-- Does something with files that may fail, on paths that a system can hold. -/
def attempt {α : Type} (paths : List String) (action : IO α) : IO (Except FileError α) :=
  if paths.any Path.hasNul then pure (.error .unexpectedNul)
  else
    try
      return .ok (← action)
    catch e =>
      return .error (fileErrorOf e)

/-- The files of the system. -/
def systemFiles : FileAccess IO where
  read path := attempt [path] (IO.FS.readBinFile path)
  createDirectories path := attempt [path] (IO.FS.createDirAll path)
  write path content := attempt [path] (IO.FS.writeBinFile path content)
  rename source destination := attempt [source, destination] (IO.FS.rename source destination)

/-- Waits until something has ended, for some milliseconds at most. -/
def waitFor {α : Type} (task : Task (Except IO.Error α)) : Nat → IO (Option α)
  | 0 => pure none
  | n + 1 => do
    if ← IO.hasFinished task then
      return some (← IO.ofExcept task.get)
    IO.sleep 1
    waitFor task n

/-- The system as a platform. -/
def system : Platform IO where
  files := systemFiles
  lookup name := IO.getEnv name
  pause ms := IO.sleep (UInt32.ofNat ms)
  bound _ limit action := do waitFor (← IO.asTask action) limit

end TraceReconciler.CommandLine

open TraceReconciler TraceReconciler.CommandLine in
/-- Runs the invocation that the arguments are. -/
def main (arguments : List String) : IO UInt32 := do
  let directory ← IO.currentDir
  let report ← run system (environmentPaths (Path.steps directory.toString).length) arguments
  IO.print report.output
  if let some complaint := report.complaint then IO.eprintln complaint
  return report.exitCode
