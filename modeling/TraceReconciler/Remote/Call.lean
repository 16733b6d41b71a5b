import TraceReconciler.Reconcile.State
import TraceReconciler.Text.Duration

/-!
# Calls on a remote store

A remote store understands two calls: reading the configuration that it holds, and replacing it. A
**remote** is anything that answers them, in whatever monad its answers take place: a store in
memory answers in a state monad, a store on disk where files can be read. Nothing else is assumed of
a remote: its answers may depend on all that was asked before, and any call may fail.

**A limit is part of the remote.** Bounding the time of each call turns one remote into another one
(`Remote.within`), which answers a call that took too long with a failure of its own.
-/

namespace TraceReconciler

/-- A call on a remote store. -/
inductive RemoteCall where
  /-- Read the configuration. -/
  | fetch
  /-- Replace the configuration. -/
  | push (c : Configuration)
deriving DecidableEq

namespace RemoteCall

/-- The name of a call. -/
def name : RemoteCall → String
  | .fetch => "fetch"
  | .push _ => "push"

/-- What a call that succeeds brings back. -/
abbrev Reply : RemoteCall → Type
  | .fetch => Configuration
  | .push _ => Unit

/-- What comes of a call. -/
abbrev Answer (k : RemoteCall) : Type := Except RemoteError k.Reply

/-- The failure that an answer reports. -/
def Answer.error? {k : RemoteCall} : k.Answer → Option RemoteError
  | .ok _ => none
  | .error e => some e

/-- The configuration that a call writes. -/
def pushed? : RemoteCall → Option Configuration
  | .fetch => none
  | .push c => some c

/-- The failure of a call that was given up after a number of milliseconds. -/
def timedOut (k : RemoteCall) (limit : Nat) : RemoteError :=
  .failed (k.name ++ " timed out after " ++ Text.duration limit)

end RemoteCall

/-- **A remote store**: an answer to every call. -/
abbrev Remote (m : Type → Type) : Type := (k : RemoteCall) → m k.Answer

namespace Remote

variable {m : Type → Type} [Monad m]

/-- **A remote whose calls are bounded.** The way to bound a computation is given: it answers `none`
once the time is over. -/
def within (bound : (α : Type) → Nat → m α → m (Option α)) (limit : Option Nat)
    (remote : Remote m) : Remote m := fun k ↦
  match limit with
  | none => remote k
  | some d => do
    match ← bound k.Answer d (remote k) with
    | some a => pure a
    | none => pure (.error (k.timedOut d))

end Remote

end TraceReconciler
