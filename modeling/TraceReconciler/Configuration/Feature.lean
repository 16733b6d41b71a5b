import TraceReconciler.Configuration.Basic
import TraceReconciler.Text.Blank

/-!
# Features and changes of them

A **feature** names a slot together with what is needed to switch it on: a threshold, or the site of
a probe. A **change** switches one feature on or off for some processes. An **action** is a change
of the local configuration or a request to bring it into agreement with the remote one.

Names of slots are read generously (`Slot.ofName?`): blanks around the name, the case of ASCII
letters, and dashes for underscores do not matter.
-/

namespace TraceReconciler

/-- A feature with its payload. -/
inductive Feature where
  | vfsWrite
  /-- Blocking calls that take longer than a threshold. -/
  | sendMessage (threshold : Threshold)
  | jniReferences
  | sigquit
  | gc
  | openFiles
  /-- A probe at one site. -/
  | probe (site : Site)
deriving DecidableEq, Inhabited

/-- The slot of a feature. -/
def Feature.slot : Feature → Slot
  | .vfsWrite => .vfsWrite
  | .sendMessage _ => .sendMessage
  | .jniReferences => .jniReferences
  | .sigquit => .sigquit
  | .gc => .gc
  | .openFiles => .openFiles
  | .probe _ => .probe

/-! ### Names of slots -/

/-- An ASCII capital becomes a small letter, a dash an underscore. -/
def plainLetter (c : Char) : Char :=
  if 'A' ≤ c ∧ c ≤ 'Z' then Char.ofNat (c.toNat + 32)
  else if c = '-' then '_'
  else c

/-- **The slot that a name means**, if it means one. -/
def Slot.ofName? (name : String) : Option Slot :=
  let plain := (Text.trim name.toList).map plainLetter
  Slot.all.find? fun s ↦ s.name.toList == plain

/-! ### Changes -/

/-- Processes to be added or to be removed. -/
inductive PidDelta where
  | add (pids : PidSet)
  | remove (pids : PidSet)
deriving DecidableEq

namespace PidDelta

/-- The processes that a delta is about. -/
def pids : PidDelta → PidSet
  | .add s => s
  | .remove s => s

/-- The processes to be added. -/
def added : PidDelta → PidSet
  | .add s => s
  | .remove _ => ∅

/-- The processes to be removed. -/
def removed : PidDelta → PidSet
  | .add _ => ∅
  | .remove s => s

/-- **No process is both added and removed.** -/
theorem not_mem_removed_of_mem_added {d : PidDelta} {p : Pid} (h : p ∈ d.added) :
    p ∉ d.removed := by
  cases d with
  | add s => exact SortedSet.not_mem_empty p
  | remove s => exact absurd h (SortedSet.not_mem_empty p)

end PidDelta

/-- A feature switched on or off for some processes. -/
structure Change where
  feature : Feature
  enable : Bool
  pids : PidSet
deriving DecidableEq

/-- The processes that a change adds or removes. -/
def Change.delta (c : Change) : PidDelta := if c.enable then .add c.pids else .remove c.pids

/-- What can be asked of the reconciler. -/
inductive Action where
  /-- Edit the local configuration. -/
  | change (c : Change)
  /-- Write local edits to the remote store. -/
  | synchronize
  /-- Replace the remote configuration by the empty one. -/
  | reset
  /-- Start again after an error. -/
  | retry
deriving DecidableEq

/-- The name of an action. -/
def Action.name : Action → String
  | .change _ => "change_feature"
  | .synchronize => "synchronize"
  | .reset => "reset"
  | .retry => "retry"

end TraceReconciler
