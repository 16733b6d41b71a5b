import TraceReconciler.Configuration.Snapshot
import TraceReconciler.Files.Path
import TraceReconciler.Text.Duration

/-!
# Settings

Where the store is, how long to wait before it is asked for the first time, and how long it may take
to answer. All three come from variables, looked up by name; a variable that is not set leaves the
default.

A duration is a number of milliseconds: after the blanks around it are taken off, at most one plus
and one or more digits, for a number below 2⁶⁴. The first variable that is anything else is the
error, the delay being read before the limit.
-/

namespace TraceReconciler

/-- How the reconciler is to work. -/
structure Settings where
  /-- The file of the store. -/
  storePath : String := "tracesync.json"
  /-- Milliseconds before the first fetch. -/
  initialDelay : Nat := 0
  /-- Milliseconds that a call on the store may take. -/
  remoteTimeout : Option Nat := none
deriving DecidableEq

/-- What is wrong with a variable. -/
inductive SettingsError where
  /-- A duration that is no number of milliseconds. -/
  | invalidDuration (key value : String)
deriving DecidableEq

/-- The message of an error. -/
def SettingsError.message : SettingsError → String
  | .invalidDuration x v =>
    "Invalid " ++ x ++ " value: " ++ Text.quoted v ++ " (expected milliseconds)"

namespace Settings

/-- The variable that names the file of the store. -/
def storePathVariable : String := "TRACESYNC_STORE_PATH"

/-- The variable that holds the delay before the first fetch. -/
def initialDelayVariable : String := "TRACESYNC_INITIAL_DELAY_MS"

/-- The variable that holds the limit of a call. -/
def remoteTimeoutVariable : String := "TRACESYNC_REMOTE_TIMEOUT_MS"

/-- The milliseconds that a text means. -/
def millis? (text : String) : Option Nat := Text.readBelow? Text.bound64 (Text.trim text.toList)

/-- The milliseconds that a variable holds, if it is set. -/
def readMillis (key : String) (value : Option String) : Except SettingsError (Option Nat) :=
  match value with
  | none => .ok none
  | some v =>
    match millis? v with
    | some n => .ok (some n)
    | none => .error (.invalidDuration key v)

/-- **The settings that the variables give.** -/
def ofLookup (lookup : String → Option String) : Except SettingsError Settings := do
  let storePath := (lookup storePathVariable).getD ({} : Settings).storePath
  let delay ← readMillis initialDelayVariable (lookup initialDelayVariable)
  let limit ← readMillis remoteTimeoutVariable (lookup remoteTimeoutVariable)
  .ok { storePath, initialDelay := delay.getD 0, remoteTimeout := limit }

/-- The same settings with another store. -/
def withStorePath (s : Settings) (path : String) : Settings := { s with storePath := path }

/-- The same settings with another delay. -/
def withInitialDelay (s : Settings) (ms : Nat) : Settings := { s with initialDelay := ms }

/-- The same settings with a limit. -/
def withRemoteTimeout (s : Settings) (ms : Nat) : Settings := { s with remoteTimeout := some ms }

/-- Whether the settings are those of someone who has set nothing. The store may be written in
another way. -/
def isDefault (s : Settings) : Bool :=
  let d : Settings := {}
  Path.isSame s.storePath d.storePath && s.initialDelay = d.initialDelay
    && s.remoteTimeout = d.remoteTimeout

end Settings

/-! ### Errors of the program -/

/-- Whatever can go wrong in the program around the reconciler. -/
inductive ProgramError where
  /-- The reconciler has stopped and takes no more actions. -/
  | closed
  | config (e : SettingsError)
  | engine (e : EngineError)
  /-- A failure of input or output, as the system words it. -/
  | io (message : String)
  | serialization (f : Json.Fault)
deriving DecidableEq

namespace ProgramError

/-- The message of an error. -/
def message : ProgramError → String
  | .closed => "synchronizer is closed"
  | .config e => "Configuration error: " ++ e.message
  | .engine e => "Engine error: " ++ e.message
  | .io m => "IO error: " ++ m
  | .serialization f => "Serialization error: " ++ f.message

/-- The kind of an error. -/
def kind : ProgramError → String
  | .closed => "Closed"
  | .config _ => "Config"
  | .engine _ => "Engine"
  | .io _ => "Io"
  | .serialization _ => "Serialization"

/-- A name and the details in parentheses. -/
def withDetails (name details : String) : String := name ++ "(" ++ details ++ ")"

/-- The details of an error, for one who reports it and stops. -/
def details : ProgramError → String
  | .closed => "Closed"
  | .config (.invalidDuration x v) =>
    withDetails "Config" ("InvalidDuration \x7b var: " ++ Text.quoted x ++ ", value: "
      ++ Text.quoted v ++ " \x7d")
  | .engine (.invalidSnapshot r) =>
    withDetails "Engine" (withDetails "InvalidSnapshot" (Text.quoted r))
  | .engine (.versionMismatch e a) =>
    withDetails "Engine" ("SnapshotVersionMismatch \x7b expected: "
      ++ String.ofList (Text.digits e.toNat) ++ ", actual: "
      ++ String.ofList (Text.digits a.toNat) ++ " \x7d")
  | .engine (.unknownFeature n) =>
    withDetails "Engine" (withDetails "UnknownFeature" (Text.quoted n))
  | .engine (.invalidAction r) =>
    withDetails "Engine" (withDetails "InvalidAction" (Text.quoted r))
  | .io m => withDetails "Io" m
  | .serialization f => withDetails "Serialization" (Text.quoted f.message)

end ProgramError

end TraceReconciler
