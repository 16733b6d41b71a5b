import TraceReconciler.Configuration.Snapshot
import TraceReconciler.Files.Access
import TraceReconciler.Remote.Call

/-!
# A store in a file

The configuration is kept as one pretty-printed snapshot. A missing file is a store that was never
written; a file that holds anything else than a snapshot in the format in use is a failure, and
never taken for an empty store.

**Nothing is ever half written.** A new snapshot is written to a file beside the store, which then
takes the place of the old one in one step; whatever fails before that step leaves the store as it
was.
-/

namespace TraceReconciler.FileStore

/-- The file that is written before it takes the place of the store. -/
def temporary (path : String) : String := Path.beside ".tmp" path

/-- The words for content that is no text. -/
def notText : String := "stream did not contain valid UTF-8"

/-- The directory that has to be there before the store can be written. -/
def directory? (path : String) : Option String := (Path.parent? path).filter (· ≠ "")

/-- The configuration that the content of the file means. -/
def decode (path : String) (content : ByteArray) : Except RemoteError Configuration :=
  match Text.ofUtf8? content with
  | none => .error (.failed ("Failed to read " ++ path ++ ": " ++ notText))
  | some text =>
    match Snapshot.ofText text with
    | .ok s => .ok s.configuration
    | .error e => .error (.failed (path ++ ": " ++ e.message))

/-- The content of the file that holds a configuration. -/
def encode (c : Configuration) : ByteArray := (Snapshot.ofConfiguration c).prettyText.toUTF8

section

variable {m : Type → Type} [Monad m] (files : FileAccess m) (path : String)

/-- Reads the configuration. -/
def fetch : m (Except RemoteError Configuration) := do
  match ← files.read path with
  | .ok content => pure (decode path content)
  | .error .missing => pure (.error .notFound)
  | .error e => pure (.error (.failed ("Failed to read " ++ path ++ ": " ++ e.message)))

/-- Makes sure that the directory of the store is there. -/
def prepare : m (Except RemoteError Unit) := do
  match directory? path with
  | none => pure (.ok ())
  | some d =>
    match ← files.createDirectories d with
    | .ok () => pure (.ok ())
    | .error e =>
      pure (.error (.failed ("Failed to create directory " ++ d ++ ": " ++ e.message)))

/-- Writes the configuration. -/
def push (c : Configuration) : m (Except RemoteError Unit) := do
  match ← prepare files path with
  | .error e => pure (.error e)
  | .ok () =>
    let t := temporary path
    match ← files.write t (encode c) with
    | .error e => pure (.error (.failed ("Failed to write " ++ t ++ ": " ++ e.message)))
    | .ok () =>
      match ← files.rename t path with
      | .ok () => pure (.ok ())
      | .error e =>
        pure (.error (.failed ("Failed to rename " ++ t ++ " to " ++ path ++ ": " ++ e.message)))

/-- **A store in a file as a remote.** -/
def remote : Remote m
  | .fetch => fetch files path
  | .push c => push files path c

end

end TraceReconciler.FileStore
