import TraceReconciler.Remote.Call

/-!
# Events

What happens while a configuration is being reconciled: calls on the remote store and their answers,
states that are published, actions that arrive. A list of events says everything about a run that
can be observed from outside: the calls made, the states published, and the log, which is a
rendering of the events one by one (`Event.line?`).
-/

namespace TraceReconciler

/-- Something that happens during reconciliation. -/
inductive Event where
  /-- The first fetch is put off by some milliseconds. -/
  | delaying (delay : Nat)
  /-- A call is made on the remote store. -/
  | called (k : RemoteCall)
  /-- A call is answered. -/
  | answered (k : RemoteCall) (a : k.Answer)
  /-- The store was never written, so it is going to be. -/
  | seeding
  /-- A state takes the place of another one. -/
  | published (previous next : State)
  /-- An action is sent. -/
  | dispatched (a : Action)
  /-- An action is taken up. -/
  | taken (a : Action)
  /-- An action has no meaning in the state that it met. -/
  | ignored (a : Action) (s : State)
  /-- The order to stop has come. -/
  | closing
  /-- No more work is done. -/
  | stopped (s : State)

namespace Event

/-- A member of a log line. -/
def member (name value : String) : String := " " ++ name ++ "=" ++ value

/-- **The log line of an event.** A call that succeeded, an action that is taken up, and a state
published in place of an equal one leave no line. -/
def line? : Event → Option String
  | .delaying d => some ("DEBUG Delaying initial fetch" ++ member "delay" (Text.duration d))
  | .called k => some ("DEBUG Remote call" ++ member "op" k.name)
  | .answered k a =>
    match a.error? with
    | none => none
    | some .notFound => some ("DEBUG Remote store not found" ++ member "op" k.name)
    | some (.failed m) =>
      some ("WARN Remote call failed" ++ member "op" k.name
        ++ member "error" (RemoteError.failed m).message)
  | .seeding => some "INFO Remote store is empty, writing the empty configuration"
  | .published p n =>
    if p = n then none
    else some ("INFO State changed" ++ member "from" p.name ++ member "to" n.name)
  | .dispatched a => some ("DEBUG Dispatching action" ++ member "action" a.name)
  | .taken _ => none
  | .ignored a s =>
    some ("DEBUG Ignoring action" ++ member "action" a.name ++ member "state" s.name)
  | .closing => some "DEBUG Synchronizer shutting down"
  | .stopped s => some ("INFO Synchronizer stopped" ++ member "state" s.name)

/-- The call that an event makes. -/
def call? : Event → Option RemoteCall
  | .called k => some k
  | _ => none

/-- The action that an event takes up. -/
def action? : Event → Option Action
  | .taken a => some a
  | _ => none

/-- The state that an event publishes. -/
def state? : Event → Option State
  | .published _ s => some s
  | _ => none

end Event

end TraceReconciler
