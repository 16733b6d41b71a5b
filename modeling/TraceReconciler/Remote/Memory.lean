import TraceReconciler.Remote.Call

/-!
# A store in memory

A register with a record of the calls made on it. Failures can be queued: a call takes the oldest
failure of its own kind, once, instead of doing its work.

A call has two ends. **Beginning** it puts it on record; **finishing** it, later if the store is a
slow one, takes a queued failure or does the work. A call that is **abandoned** in between stays on
record and has no other effect.
-/

namespace TraceReconciler

/-- A store in memory. -/
structure Memory where
  /-- The configuration held; none if it was never written. -/
  stored : Option Configuration := none
  /-- The calls begun so far, oldest first. -/
  calls : List RemoteCall := []
  /-- The failures that wait for a fetch, oldest first. -/
  fetchFailures : List RemoteError := []
  /-- The failures that wait for a push, oldest first. -/
  pushFailures : List RemoteError := []
  /-- How many calls have begun and not yet ended. -/
  inFlight : Nat := 0
  /-- The greatest number of calls that were ever in flight together. -/
  maxInFlight : Nat := 0

namespace Memory

/-- A store that holds a configuration. -/
def ofConfiguration (c : Configuration) : Memory := { stored := some c }

/-- Replaces what is stored, as another writer would. -/
def set (c : Option Configuration) (s : Memory) : Memory := { s with stored := c }

/-- Makes one more fetch fail. -/
def failFetch (e : RemoteError) (s : Memory) : Memory :=
  { s with fetchFailures := s.fetchFailures ++ [e] }

/-- Makes one more push fail. -/
def failPush (e : RemoteError) (s : Memory) : Memory :=
  { s with pushFailures := s.pushFailures ++ [e] }

/-- The configurations that were to be written, oldest first. -/
def pushes (s : Memory) : List Configuration := s.calls.filterMap RemoteCall.pushed?

/-- A call begins. -/
def begin (k : RemoteCall) (s : Memory) : Memory :=
  { s with
    calls := s.calls ++ [k]
    inFlight := s.inFlight + 1
    maxInFlight := max s.maxInFlight (s.inFlight + 1) }

/-- A call ends without having been finished. -/
def abandon (s : Memory) : Memory := { s with inFlight := s.inFlight - 1 }

/-- The work of a call. -/
def work (s : Memory) : (k : RemoteCall) → k.Answer × Memory
  | .fetch =>
    match s.fetchFailures with
    | e :: rest => (.error e, { s with fetchFailures := rest })
    | [] =>
      match s.stored with
      | some c => (.ok c, s)
      | none => (.error .notFound, s)
  | .push c =>
    match s.pushFailures with
    | e :: rest => (.error e, { s with pushFailures := rest })
    | [] => (.ok (), { s with stored := some c })

/-- A call is finished: its work is done, and it is no longer in flight. -/
def finish (k : RemoteCall) (s : Memory) : k.Answer × Memory :=
  let (a, s) := s.work k
  (a, s.abandon)

/-- **A store in memory as a remote**: a call begins and is finished at once. -/
def remote : Remote (StateM Memory) := fun k s ↦ (s.begin k).finish k

end Memory

end TraceReconciler
