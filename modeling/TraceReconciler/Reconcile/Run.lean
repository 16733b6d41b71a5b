import TraceReconciler.Reconcile.Stage

/-!
# Reconciling, one thing after another

The plain way to reconcile: establish the state, then handle one action after the other, each to its
end before the next one is looked at. Nothing overlaps and there is no time, so this is what a run
*means*, whatever the remote store does: it is given as any remote in any monad.

Each function answers with the state reached and with what happened on the way, in order.
-/

namespace TraceReconciler

namespace State

variable {m : Type → Type} [Monad m] (remote : Remote m)

/-- Runs an errand and publishes what it settles in. -/
def perform (s : State) (e : Errand) : m (State × List Event) := do
  let (o, events) ← e.stage.run remote
  pure (settle o, events ++ [.published s (settle o)])

/-- Handles an action. -/
def handle (s : State) (a : Action) : m (State × List Event) := do
  let t := s.transition a
  if t.isIgnored then pure (s, [.taken a, .ignored a s])
  else
    let (s, entering) := match t.next with
      | some n => (n, [Event.taken a, .published s n])
      | none => (s, [.taken a])
    match t.errand with
    | none => pure (s, entering)
    | some e =>
      let (s, events) ← s.perform remote e
      pure (s, entering ++ events)

/-- **Handles actions, one after the other.** -/
def handleAll (s : State) : List Action → m (State × List Event)
  | [] => pure (s, [])
  | a :: rest => do
    let (s, first) ← s.handle remote a
    let (s, others) ← handleAll s rest
    pure (s, first ++ others)

/-- The first fetch, and the seeding of a store that was never written. -/
def establish : m (State × List Event) := uninitialized.perform remote .establish

/-- **A whole run**: the state is established, the actions are handled. -/
def reconcile (actions : List Action) : m (State × List Event) := do
  let (s, first) ← establish remote
  let (s, others) ← s.handleAll remote actions
  pure (s, first ++ others)

end State

end TraceReconciler
