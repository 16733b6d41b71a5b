import TraceReconciler.CommandLine.Arguments
import TraceReconciler.CommandLine.EnvironmentFile
import TraceReconciler.Files.Tree
import TraceReconciler.Reconcile.Run
import TraceReconciler.Remote.File
import TraceReconciler.Settings

/-!
# An invocation

An invocation reconciles once, over a store in a file, and prints what it has come to: the state, or
the options if those were asked for. What it needs of the world around it is a `Platform`, so that
it can be run over a tree of files that is a value as well as over those on disk.

**Nothing is touched before everything is understood**: the environment file, arguments, settings
and the feature of a change are looked at, in this order, before the store is.
-/

namespace TraceReconciler.CommandLine

/-- What an invocation needs of the world. -/
structure Platform (m : Type → Type) where
  files : FileAccess m
  /-- The value of a variable. -/
  lookup : String → m (Option String)
  /-- Waits for some milliseconds. -/
  pause : Nat → m Unit
  /-- Does something, unless it takes more than some milliseconds. -/
  bound : (α : Type) → Nat → m α → m (Option α)

/-- Why there is nothing to be printed. -/
inductive Refusal where
  /-- The environment file gives a variable a value that it cannot have. -/
  | unsettable (name : String)
  | usage (e : UsageError)
  | program (e : ProgramError)

/-- What an invocation comes to. -/
structure Report where
  exitCode : UInt32
  /-- What it prints. -/
  output : String := ""
  /-- What it says about its failure. -/
  complaint : Option String := none
deriving DecidableEq

/-- The report about a refusal. What is wrong before there is a program to report it has an exit
code of its own. -/
def Refusal.report : Refusal → Report
  | .unsettable name =>
    { exitCode := 101, complaint := some ("error: the value of " ++ name ++ " holds a NUL") }
  | .usage e => { exitCode := 2, complaint := some ("error: " ++ e.message) }
  | .program e => { exitCode := 1, complaint := some ("Error: " ++ e.details) }

/-- The text that answers a request in the state reached. Without a configuration there are no
options. -/
def Request.output (r : Request) (s : State) : String :=
  match r with
  | .options pids =>
    let options := (s.localConfiguration?.map fun c ↦ c.options pids).getD []
    (Json.Value.array (options.map FeatureOption.toJson)).prettyText
  | _ => s.toJson.prettyText

/-- The report about the state reached. -/
def Request.report (r : Request) (s : State) : Report :=
  { exitCode := if s.isError then 1 else 0, output := r.output s ++ "\n" }

/-- An invocation that is understood. -/
structure Plan where
  settings : Settings
  request : Request
  actions : List Action

/-- **What an invocation is going to do.** -/
def plan (invocation : Invocation) (lookup : String → Option String) :
    Except ProgramError Plan :=
  match Settings.ofLookup lookup with
  | .error e => .error (.config e)
  | .ok settings =>
    let settings := match invocation.store with
      | some path => settings.withStorePath path
      | none => settings
    match invocation.request.actions with
    | .error e => .error (.engine e)
    | .ok actions => .ok { settings, request := invocation.request, actions }

section

variable {m : Type → Type} [Monad m] (platform : Platform m)

/-- Does what was planned. -/
def Plan.perform (p : Plan) : m Report := do
  if p.settings.initialDelay ≠ 0 then platform.pause p.settings.initialDelay
  let remote := (FileStore.remote platform.files p.settings.storePath).within platform.bound
    p.settings.remoteTimeout
  let (s, _) ← State.reconcile remote p.actions
  pure (p.request.report s)

/-- The variables that the first environment file among some paths sets. -/
def loadVariables : List String → m (Except String (List (String × String)))
  | [] => pure (.ok [])
  | path :: rest => do
    match ← platform.files.read path with
    | .ok content => EnvironmentFile.load platform.lookup (Text.leadingText content)
    | .error .missing => loadVariables rest
    | .error .isDirectory => loadVariables rest
    | .error _ => pure (.ok [])

/-- The paths at which an environment file is looked for: in the working directory, and in those
above it, of which there are some. -/
def environmentPaths (above : Nat) : List String :=
  (List.range (above + 1)).map fun n ↦ String.join (List.replicate n "../") ++ ".env"

/-- **An invocation**, given the paths at which an environment file is looked for, and the
arguments. -/
def run (environmentFiles : List String) (arguments : List String) : m Report := do
  match ← loadVariables platform environmentFiles, Invocation.ofArguments arguments with
  | .error name, _ => pure (Refusal.unsettable name).report
  | .ok _, .error e => pure (Refusal.usage e).report
  | .ok loaded, .ok invocation =>
    let find := EnvironmentFile.find platform.lookup loaded
    let storePath ← find Settings.storePathVariable
    let delay ← find Settings.initialDelayVariable
    let limit ← find Settings.remoteTimeoutVariable
    let lookup := fun key ↦
      if key = Settings.storePathVariable then storePath
      else if key = Settings.initialDelayVariable then delay
      else if key = Settings.remoteTimeoutVariable then limit
      else none
    match plan invocation lookup with
    | .error e => pure (Refusal.program e).report
    | .ok p => p.perform platform

end

/-! ### Over a tree of files -/

/-- A tree of files as a platform with some variables, where nothing takes time. What is given no
time at all is still not done. -/
def treePlatform (known : List (String × String)) : Platform (StateM FileTree) where
  files := FileTree.access
  lookup name := pure (EnvironmentFile.valueIn? known name)
  pause _ := pure ()
  bound _ limit action := if limit = 0 then pure none else some <$> action

end TraceReconciler.CommandLine
