import TraceReconciler.Configuration.Snapshot

/-!
# Arguments

What an invocation asks for: a request, and perhaps the file of the store. Options have names of two
dashes and a value each, in the next argument or after an equals sign; they may stand between the
other arguments, at most once each. A value in an argument of its own cannot begin with a dash,
unless the dash is all of it. After an argument of two dashes nothing is an option.

The option for the store belongs to the whole invocation and stands before the name of the request;
all others belong to the request and stand after it.
-/

namespace TraceReconciler.CommandLine

/-- What is wrong with the arguments. -/
inductive UsageError where
  | unknown (argument : String)
  | missingValue (option : String)
  | repeated (option : String)
  | invalid (name value : String)
  | missing (name : String)
deriving DecidableEq

/-- The message of an error. -/
def UsageError.message : UsageError → String
  | .unknown a => "unexpected argument: " ++ a
  | .missingValue o => "missing value for --" ++ o
  | .repeated o => "repeated option: --" ++ o
  | .invalid n v => "invalid value for " ++ n ++ ": " ++ Text.quoted v
  | .missing n => "missing argument: " ++ n

/-! ### Options among arguments -/

/-- What an argument looks like. -/
inductive Shape where
  /-- Two dashes, after which nothing is an option. -/
  | dashes
  /-- An option, perhaps with its value. -/
  | option (name : String) (value : Option String)
  /-- A dash and something after it. -/
  | dashed
  | plain
deriving DecidableEq

/-- The characters before an equals sign, and those after it if there is one. -/
def splitAtEquals : List Char → List Char × Option (List Char)
  | [] => ([], none)
  | c :: r =>
    if c = '=' then ([], some r)
    else
      let (name, value) := splitAtEquals r
      (c :: name, value)

/-- What an argument looks like. -/
def Shape.ofArgument (a : String) : Shape :=
  match a.toList with
  | ['-', '-'] => .dashes
  | '-' :: '-' :: r =>
    let (name, value) := splitAtEquals r
    .option (String.ofList name) (value.map String.ofList)
  | '-' :: _ :: _ => .dashed
  | _ => .plain

/-- Options with their values, and the other arguments. -/
structure Scanned where
  options : List (String × String) := []
  others : List String := []
deriving DecidableEq

namespace Scanned

/-- One more option before all others. -/
def addOption (name value : String) (s : Scanned) : Scanned :=
  { s with options := (name, value) :: s.options }

/-- One more argument that is no option, before all others. -/
def addOther (a : String) (s : Scanned) : Scanned := { s with others := a :: s.others }

/-- **The options among some arguments**, given the names of those that there can be. -/
def ofArguments (names : List String) : List String → Except UsageError Scanned
  | [] => .ok {}
  | a :: rest =>
    match Shape.ofArgument a with
    -- Nothing after two dashes is an option, more dashes included.
    | .dashes => .ok { others := rest }
    | .dashed => .error (.unknown a)
    | .plain => addOther a <$> ofArguments names rest
    | .option name value =>
      if names.contains name then
        match value with
        | some v => addOption name v <$> ofArguments names rest
        | none =>
          match rest with
          | [] => .error (.missingValue name)
          | v :: rest =>
            if Shape.ofArgument v = .plain then addOption name v <$> ofArguments names rest
            else .error (.missingValue name)
      else .error (.unknown a)

/-- The first option that is there twice. -/
def repeated? (s : Scanned) : Option String :=
  (s.options.map Prod.fst).find? fun n ↦ 1 < (s.options.map Prod.fst).count n

/-- The options among some arguments, none of them repeated. -/
def single (names : List String) (arguments : List String) : Except UsageError Scanned := do
  let s ← ofArguments names arguments
  match s.repeated? with
  | some n => .error (.repeated n)
  | none => .ok s

/-- Nothing, where some arguments could be. -/
def nothing (arguments : List String) : Except UsageError Unit := do
  match (← single [] arguments).others with
  | [] => .ok ()
  | a :: _ => .error (.unknown a)

end Scanned

/-! ### Values -/

/-- The process that an argument means. -/
def readPid (a : String) : Except UsageError Pid :=
  match Text.readSigned? a.toList with
  | some n =>
    if 0 ≤ n ∧ n < Text.bound32 then .ok (UInt32.ofNat n.toNat) else .error (.invalid "PIDS" a)
  | none => .error (.invalid "PIDS" a)

/-- The word of 64 bits that an option gives, or else a default. -/
def readWord (s : Scanned) (name : String) (default : UInt64) : Except UsageError UInt64 :=
  match s.options.lookup name with
  | none => .ok default
  | some v =>
    match Text.readBelow? Text.bound64 v.toList with
    | some n => .ok (UInt64.ofNat n)
    | none => .error (.invalid name v)

/-! ### Requests -/

/-- A feature to be switched for some processes, as it was asked for. -/
structure ChangeRequest where
  slot : Slot
  pids : List Pid
  threshold : UInt64 := defaultThreshold
  function : Option String := none
  target : Option String := none
  offset : UInt64 := 0
deriving DecidableEq

namespace ChangeRequest

/-- The names of the options of a change. -/
def optionNames : List String := ["threshold", "function", "target", "offset"]

/-- The change that some arguments ask for. -/
def ofArguments (arguments : List String) : Except UsageError ChangeRequest := do
  let s ← Scanned.single optionNames arguments
  match s.others with
  | [] => .error (.missing "FEATURE")
  | [_] => .error (.missing "PIDS")
  | feature :: pids =>
    match Slot.ofName? feature with
    | none => .error (.invalid "FEATURE" feature)
    | some slot =>
      let pids ← pids.mapM readPid
      let threshold ← readWord s "threshold" defaultThreshold
      let offset ← readWord s "offset" 0
      .ok { slot, pids, threshold, offset
            function := s.options.lookup "function"
            target := s.options.lookup "target" }

/-- **The feature to be switched.** That of a probe needs a function and a module. -/
def feature (r : ChangeRequest) : Except EngineError Feature :=
  match r.slot with
  | .vfsWrite => .ok .vfsWrite
  | .sendMessage => .ok (.sendMessage r.threshold)
  | .jniReferences => .ok .jniReferences
  | .sigquit => .ok .sigquit
  | .gc => .ok .gc
  | .openFiles => .ok .openFiles
  | .probe =>
    match r.function, r.target with
    | some f, some t => .ok (.probe ⟨f, t, r.offset⟩)
    | _, _ => .error (.invalidAction "uprobe requires --function and --target")

/-- The change asked for. -/
def change (r : ChangeRequest) (enable : Bool) : Except EngineError Change := do
  .ok { feature := ← r.feature, enable, pids := SortedSet.ofList r.pids }

end ChangeRequest

/-- What an invocation asks for. -/
inductive Request where
  /-- Show the state. -/
  | state
  /-- Show what is switched on for some processes. -/
  | options (pids : List Pid)
  /-- Switch a feature on or off. -/
  | change (enable : Bool) (r : ChangeRequest)
  /-- Replace what is stored by the empty configuration. -/
  | reset
deriving DecidableEq

/-- The request with a name, read from the arguments after the name. -/
def Request.named? (name : String) : Option (List String → Except UsageError Request) :=
  if name = "show" then some fun rest ↦ Scanned.nothing rest *> .ok .state
  else if name = "reset" then some fun rest ↦ Scanned.nothing rest *> .ok .reset
  else if name = "options" then some fun rest ↦ do
    .ok (.options (← (← Scanned.single [] rest).others.mapM readPid))
  else if name = "enable" then some fun rest ↦ .change true <$> ChangeRequest.ofArguments rest
  else if name = "disable" then some fun rest ↦ .change false <$> ChangeRequest.ofArguments rest
  else none

/-- The actions that a request comes to. A change is submitted at once. -/
def Request.actions : Request → Except EngineError (List Action)
  | .state => .ok []
  | .options _ => .ok []
  | .change enable r => do .ok [.change (← r.change enable), .synchronize]
  | .reset => .ok [.reset]

/-- A request, and the store that it is about if not the usual one. -/
structure Invocation where
  store : Option String := none
  request : Request
deriving DecidableEq

namespace Invocation

/-- The name of the option for the store. -/
def storeOption : String := "store"

/-- The store given by an option, unless there is one already. -/
def setStore (store : Option String) (value : String) : Except UsageError String :=
  if store.isSome then .error (.repeated storeOption)
  else if value = "" then .error (.invalid storeOption value)
  else .ok value

/-- The invocation that some arguments are, given the store read so far. -/
def read (store : Option String) : List String → Except UsageError Invocation
  | [] => .error (.missing "COMMAND")
  | a :: rest =>
    match Request.named? a with
    | some request => do .ok { store, request := ← request rest }
    | none =>
      match Shape.ofArgument a with
      | .option name value =>
        if name = storeOption then
          match value with
          | some v => do read (some (← setStore store v)) rest
          | none =>
            match rest with
            | [] => .error (.missingValue storeOption)
            | v :: rest =>
              if Shape.ofArgument v = .plain then do read (some (← setStore store v)) rest
              else .error (.missingValue storeOption)
        else .error (.unknown a)
      | _ => .error (.unknown a)

/-- **The invocation that some arguments are.** -/
def ofArguments (arguments : List String) : Except UsageError Invocation := read none arguments

end Invocation

end TraceReconciler.CommandLine
