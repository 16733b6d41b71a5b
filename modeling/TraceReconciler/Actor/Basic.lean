import TraceReconciler.Reconcile.Run

/-!
# The actor

An actor owns a state and reconciles it with a remote store, one action at a time, while others go
on sending it actions. It has a **queue**, and does one small thing after the other: it takes up a
call, it gets the answer to the call, it takes the next command from its queue. Between any two of
these, anything may arrive in the queue.

None of the small steps looks at a store or a clock. Whoever drives the actor makes the call of a
stage when the actor has entered it, and hands the answer to `Actor.answer`. What a run comes to
does not depend on when that is: nothing but the head of the queue and the answer to the one
outstanding call is ever read.

**Work is counted.** The first fetch is one unit and each action is another one, so a client that
knows how many actions it has sent can tell when all of them have been handled.
-/

namespace TraceReconciler

/-- What can be put into the queue of an actor. -/
inductive Command where
  /-- Handle an action. -/
  | handle (a : Action)
  /-- Stop. -/
  | shutdown
deriving DecidableEq

/-- What an actor is doing. -/
inductive Phase where
  /-- It has not begun. -/
  | waiting
  /-- The call of a stage is outstanding. -/
  | calling (t : Stage)
  /-- It is ready for the next command. -/
  | idle
  /-- It has stopped. -/
  | stopped
  /-- It was ended from outside. -/
  | killed
deriving DecidableEq

/-- An actor. -/
structure Actor where
  /-- The state that it published last. -/
  state : State := .uninitialized
  phase : Phase := .waiting
  /-- The commands that it has not taken yet, oldest first. -/
  queue : List Command := []
  /-- Whether someone can still send it commands. -/
  isHeld : Bool := true
  /-- The units of work that it has done. -/
  processed : Nat := 0
  /-- How often it has published a state. -/
  version : Nat := 0
deriving DecidableEq

namespace Actor

/-- Whether the actor will do nothing more. -/
def isGone (a : Actor) : Bool := a.phase = .stopped ∨ a.phase = .killed

/-! ### What others do to an actor -/

/-- Puts a command into the queue. -/
def enqueue (c : Command) (a : Actor) : Actor := { a with queue := a.queue ++ [c] }

/-- No one can send commands any more. -/
def release (a : Actor) : Actor := { a with isHeld := false }

/-- Ends an actor wherever it is. -/
def kill (a : Actor) : Actor := if a.isGone then a else { a with phase := .killed }

/-! ### What an actor does -/

/-- A state takes the place of the last one. -/
def publish (s : State) (a : Actor) : Actor × List Event :=
  ({ a with state := s, version := a.version + 1 }, [.published a.state s])

/-- A unit of work is done. -/
def rest (a : Actor) : Actor := { a with phase := .idle, processed := a.processed + 1 }

/-- A stage is entered: its call is outstanding. -/
def begin (t : Stage) (a : Actor) : Actor × List Event := ({ a with phase := .calling t }, t.start)

/-- **The call of a stage is answered**: the actor enters the next stage, or publishes what the
errand has come to. -/
def answer (t : Stage) (r : t.call.Answer) (a : Actor) : Actor × List Event :=
  match t.resume r with
  | .inl t' =>
    let (a, events) := a.begin t'
    (a, .answered t.call r :: events)
  | .inr o =>
    let (a, events) := a.publish (State.settle o)
    (a.rest, .answered t.call r :: events)

/-- **An action is handled**, as far as it goes without the remote store. -/
def act (x : Action) (a : Actor) : Actor × List Event :=
  let t := a.state.transition x
  if t.isIgnored then (a.rest, [.taken x, .ignored x a.state])
  else
    let (a, entering) := match t.next with
      | some s => a.publish s
      | none => (a, [])
    match t.errand with
    | none => (a.rest, .taken x :: entering)
    | some e =>
      let (a, events) := a.begin e.stage
      (a, .taken x :: entering ++ events)

/-- The actor stops. -/
def stop (a : Actor) : Actor × List Event := ({ a with phase := .stopped }, [.stopped a.state])

/-- **The next command is taken**; without one, the actor stops if no one can send it any. An actor
that is not idle takes none. -/
def take? (a : Actor) : Option (Actor × List Event) :=
  match a.phase, a.queue with
  | .idle, .handle x :: queue => some ({ a with queue }.act x)
  | .idle, .shutdown :: queue =>
    let (a, events) := { a with queue }.stop
    some (a, .closing :: events)
  -- What was sent is handled even if no one holds the actor any more.
  | .idle, [] => if a.isHeld then none else some a.stop
  | _, _ => none

end Actor

end TraceReconciler
