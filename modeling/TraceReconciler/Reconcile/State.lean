import TraceReconciler.Configuration.Snapshot

/-!
# Reconciliation

Where the local configuration stands relative to the remote one, and what each action does about it.
Deciding is pure: `State.transition` says which state comes next and which **errand** has to be run
on the remote store, and `State.settle` turns the outcome of the errand into a state. Local edits
need no errand; only a submission does.

**Edits that cancel out.** An edit after which the local configuration is the remote one again
leaves nothing to be submitted, so the state collapses: no state says "diverged" of two equal
configurations.
-/

namespace TraceReconciler

open Json

/-- What a remote store reports when it cannot do what it was asked. -/
inductive RemoteError where
  /-- The store has never been written. -/
  | notFound
  /-- Any other failure. -/
  | failed (message : String)
deriving DecidableEq

/-- The message of a failure. -/
def RemoteError.message : RemoteError → String
  | .notFound => "configuration not found on remote"
  | .failed m => "remote error: " ++ m

/-- Whether the store is merely unwritten. -/
def RemoteError.isNotFound : RemoteError → Bool
  | .notFound => true
  | .failed _ => false

/-- The state of reconciliation. -/
inductive State where
  /-- Nothing has been fetched. -/
  | uninitialized
  /-- The local configuration is the remote one. -/
  | synchronized (configuration : Configuration)
  /-- There are local edits that the remote store does not have. -/
  | diverged (localConfiguration backend : Configuration)
  /-- The last errand failed. -/
  | error (cause : RemoteError)
deriving DecidableEq

/-- What has to be done on the remote store. -/
inductive Errand where
  /-- Fetch; if the store was never written, write the empty configuration and fetch again. -/
  | establish
  /-- Write a configuration, then fetch what the store has made of it. -/
  | submit (c : Configuration)
deriving DecidableEq

/-- What an action does: a state to be entered at once, and an errand to be run after that. -/
structure Transition where
  next : Option State := none
  errand : Option Errand := none
deriving DecidableEq

/-- Whether an action has no meaning in the state it met. -/
def Transition.isIgnored (t : Transition) : Bool := t.next.isNone && t.errand.isNone

namespace State

/-- The configuration that is being edited. -/
def localConfiguration? : State → Option Configuration
  | .synchronized c => some c
  | .diverged l _ => some l
  | _ => none

/-- The configuration last confirmed by the remote store. -/
def backend? : State → Option Configuration
  | .synchronized c => some c
  | .diverged _ b => some b
  | _ => none

/-- Whether local and remote configuration agree. -/
def isSynchronized : State → Bool
  | .synchronized _ => true
  | _ => false

/-- Whether there are local edits to be submitted. -/
def isPending : State → Bool
  | .diverged _ _ => true
  | _ => false

/-- Whether the last errand failed. -/
def isError : State → Bool
  | .error _ => true
  | _ => false

/-- The name of a state. -/
def name : State → String
  | .uninitialized => "uninitialized"
  | .synchronized _ => "synchronized"
  | .diverged _ _ => "diverged"
  | .error _ => "error"

/-- **The state of two configurations**: they have diverged unless they are equal. -/
def compare (localConfiguration backend : Configuration) : State :=
  if localConfiguration = backend then .synchronized backend
  else .diverged localConfiguration backend

/-- **What an action does in a state.** -/
def transition (s : State) (a : Action) : Transition :=
  match s, a with
  | .synchronized c, .change e => { next := some (compare (c.apply e) c) }
  | .diverged l b, .change e => { next := some (compare (l.apply e) b) }
  | .diverged l _, .synchronize => { errand := some (.submit l) }
  | .synchronized _, .reset => { errand := some (.submit ∅) }
  | .diverged _ _, .reset => { errand := some (.submit ∅) }
  | .error _, .retry => { next := some .uninitialized, errand := some .establish }
  | _, _ => {}

/-- **The state after an errand.** -/
def settle : Except RemoteError Configuration → State
  | .ok c => .synchronized c
  | .error e => .error e

end State

/-! ### JSON -/

/-- A failure as an object: what kind of failure, and its message if it has one. -/
def RemoteError.toJson : RemoteError → Value
  | .notFound => .object [("kind", .string "not_found")]
  | .failed m => .object [("kind", .string "remote"), ("message", .string m)]

/-- How the kind of a failure stands beside its message. The failure without a message accepts that
there is none, or `null`. -/
def RemoteError.adjacent : Adjacent Bool RemoteError where
  expected := "adjacently tagged enum RemoteError"
  tag := "kind"
  content := "message"
  alternatives := [("not_found", false), ("remote", true)]
  decode hasMessage := fun o n ↦
    if hasMessage then failed <$> Json.string o n
    else
      match n with
      | .null => .ok .notFound
      | _ => n.mismatch "unit variant RemoteError::NotFound"
  absent hasMessage := if hasMessage then .error (.missingField "message") else .ok .notFound

/-- A failure. -/
def RemoteError.decode : Decoder RemoteError := RemoteError.adjacent.decoder

/-- A state as an object: its name, and what it holds. -/
def State.toJson (s : State) : Value :=
  let tag := ("state", Value.string s.name)
  match s with
  | .uninitialized => .object [tag]
  | .synchronized c => .object [tag, ("configuration", c.toJson)]
  | .diverged l b =>
    .object [tag, ("localConfiguration", l.toJson), ("backendConfiguration", b.toJson)]
  | .error e => .object [tag, ("cause", e.toJson)]

/-- The compact text of a state. -/
def State.text (s : State) : String := s.toJson.text

/-- A record with one field. -/
def singleField {α β : Type} (expected whole field : String) (decode : Decoder β) (make : β → α) :
    Record α where
  expected := expected
  ofMembers o members tail := do
    let fs ← fields (fun name ↦ if name = field then some decode else none) o tail [] members
    let v ← required field fs.head?
    .ok (make v)
  ofItems o items tail := do
    let (x, items) ← takeItem 0 whole items tail
    let v ← decode o x
    .ok (make v, 1, items)

/-- The field of a diverged state with a name: whether it is the local one, and what it holds. -/
def divergedField? (name : String) : Option (Decoder (Bool × Configuration)) :=
  if name = "localConfiguration" then some fun o n ↦ (true, ·) <$> Configuration.decode o n
  else if name = "backendConfiguration" then some fun o n ↦ (false, ·) <$> Configuration.decode o n
  else none

/-- A diverged state as a record. -/
def State.divergedRecord : Record State where
  expected := "struct variant ConfigurationState::Diverged"
  ofMembers o members tail := do
    let fs ← fields divergedField? o tail [] members
    let l ← required "localConfiguration" (fs.lookup true)
    let b ← required "backendConfiguration" (fs.lookup false)
    .ok (.diverged l b)
  ofItems o items tail := do
    let whole := "struct variant ConfigurationState::Diverged with 2 elements"
    let (x, items) ← takeItem 0 whole items tail
    let l ← Configuration.decode o x
    let (x, items) ← takeItem 1 whole items tail
    let b ← Configuration.decode o x
    .ok (.diverged l b, 2, items)

/-- The content that belongs to the name of each state. -/
def State.contents : List (String × Decoder State) :=
  [("uninitialized", noFields .uninitialized),
    ("synchronized",
      (singleField "struct variant ConfigurationState::Synchronized"
        "struct variant ConfigurationState::Synchronized with 1 element"
        "configuration" Configuration.decode synchronized).decode),
    ("diverged", State.divergedRecord.decode),
    ("error",
      (singleField "struct variant ConfigurationState::Error"
        "struct variant ConfigurationState::Error with 1 element"
        "cause" RemoteError.decode error).decode)]

/-- A state. -/
def State.decode : Decoder State :=
  tagged "state" "internally tagged enum ConfigurationState" State.contents

end TraceReconciler
