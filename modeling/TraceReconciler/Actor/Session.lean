import TraceReconciler.Actor.Basic
import TraceReconciler.Actor.Schedule
import TraceReconciler.Remote.File
import TraceReconciler.Remote.Memory
import TraceReconciler.Files.Tree
import TraceReconciler.Settings

/-!
# Sessions

A session is a client together with the actors that it has started, in a time of its own: every
actor whose turn it is goes on until it has to wait for something, and when all of them wait, the
clock of the schedule jumps to the next instant at which something is due. The client does one thing
at a time, and the actors go on only while it waits.

**Calls take time.** A `TimedRemote` says what happens to a store when a call on it begins and when
it ends, and how long that takes. An actor whose settings bound its calls gives a call up when its
time is over before the call ends; a call that ends at the last instant is still in time.

**Turns are taken in order.** Those who can go on do so as the schedule says, and alarms that are
due at one instant go off in the order in which they were set. The client comes first when something
that it waits for is due. No one goes on for ever: an actor that has done as much as a turn allows
pauses until the round is over and the client has looked.

**The client can call too.** It makes a call on the store itself and waits for it, or it sets
several calls going at once; these take turns like actors do, behind those that can go on already.
-/

namespace TraceReconciler

/-- How long a call takes. -/
inductive Pace where
  /-- It ends as soon as it begins. -/
  | immediate
  /-- It takes no time, but it is one of the operations that a turn allows. -/
  | prompt
  /-- It has to be waited for, some milliseconds, which may be none. -/
  | lasting (ms : Nat)
deriving DecidableEq

/-- A remote store whose calls take time. -/
structure TimedRemote (σ : Type) where
  /-- A call begins. -/
  begin : RemoteCall → σ → σ
  /-- A call ends with an answer. -/
  finish : (k : RemoteCall) → σ → k.Answer × σ
  /-- A call is given up. -/
  abandon : σ → σ
  /-- How long every call takes. -/
  pace : Pace

/-- The pace of a store in memory with a latency of some milliseconds, if it has one. -/
def Pace.ofLatency : Option Nat → Pace
  | none => .immediate
  | some 0 => .prompt
  | some ms => .lasting ms

/-- A store in memory, with a latency if it has one. -/
def Memory.timed (latency : Option Nat) : TimedRemote Memory where
  begin := Memory.begin
  finish := Memory.finish
  abandon := Memory.abandon
  pace := .ofLatency latency

/-- A store in a file. It is waited for, without any time going by. -/
def FileTree.timed (path : String) : TimedRemote FileTree where
  begin _ t := t
  finish k t := FileStore.remote FileTree.access path k t
  abandon t := t
  pace := .lasting 0

/-- An actor in a session. -/
structure Worker where
  actor : Actor := {}
  settings : Settings := {}

/-- The hold of a client on an actor. -/
structure Handle where
  /-- Which actor it is. -/
  worker : Nat
  /-- The units of work that the actor was given; the first fetch is one. -/
  dispatched : Nat := 1

/-- One who looks at the states that an actor publishes. -/
structure Receiver where
  /-- Which actor it is. -/
  worker : Nat
  /-- How many states had been published when it last looked. -/
  seen : Nat := 0

/-- An answer together with its call. -/
structure Exchange where
  call : RemoteCall
  answer : call.Answer

/-- A call that the client has set going. -/
inductive OwnCall where
  | unbegun (k : RemoteCall)
  | begun (k : RemoteCall)
  | answered (x : Exchange)

/-- The answer to a call, if it has come. -/
def OwnCall.exchange? : OwnCall → Option Exchange
  | .unbegun _ => none
  | .begun _ => none
  | .answered x => some x

/-- A client with its actors. -/
structure Session (σ : Type) where
  /-- The remote store. -/
  remote : TimedRemote σ
  /-- What is in the store. -/
  store : σ
  /-- Whose turn it is. -/
  schedule : Schedule := {}
  /-- All actors ever started. -/
  workers : List Worker := []
  /-- The calls that the client has set going. -/
  ownCalls : List OwnCall := []
  /-- The hold on the actor started last. -/
  handle : Option Handle := none
  receivers : List Receiver := []
  /-- What has happened. -/
  journal : List Event := []

/-- Why a client did not get what it asked for. -/
inductive SessionError where
  /-- There is no actor to be asked. -/
  | notRunning
  /-- The actor does nothing more. -/
  | closed
  /-- The state that was waited for has not come. -/
  | never
deriving DecidableEq

namespace Session

variable {σ : Type}

/-- An actor of the session. -/
def worker (s : Session σ) (i : Nat) : Worker := s.workers[i]?.getD {}

/-- Something is done to an actor. -/
def modifyActor (i : Nat) (f : Actor → Actor) (s : Session σ) : Session σ :=
  { s with workers := s.workers.modify i fun w ↦ { w with actor := f w.actor } }

/-- Something happens. -/
def record (events : List Event) (s : Session σ) : Session σ :=
  { s with journal := s.journal ++ events }

/-- An actor has done something. -/
def adopt (i : Nat) (r : Actor × List Event) (s : Session σ) : Session σ :=
  (s.modifyActor i fun _ ↦ r.1).record r.2

/-- Something is done to the schedule. -/
def modifySchedule (f : Schedule → Schedule) (s : Session σ) : Session σ :=
  { s with schedule := f s.schedule }

/-- A party sets an alarm. -/
def setAlarm (p : Party) (delay : Nat) : Session σ → Session σ :=
  modifySchedule (Schedule.setAlarm p delay)

/-! ### The turn of an actor -/

/-- The limit at which a call is given up, if it is given up before it ends. -/
def givenUp? (s : Session σ) (limit : Option Nat) : Option Nat :=
  match limit, s.remote.pace with
  | some l, .lasting d => if l < d ∨ l = 0 then some l else none
  | _, _ => none

/-- The answer to the call of an actor: that of the store, or that the time is over. -/
def conclude (i : Nat) (t : Stage) (s : Session σ) : Session σ :=
  let w := s.worker i
  match s.givenUp? w.settings.remoteTimeout with
  | some l =>
    { s with store := s.remote.abandon s.store }.adopt i
      (w.actor.answer t (.error (t.call.timedOut l)))
  | none =>
    let (a, store) := s.remote.finish t.call s.store
    { s with store }.adopt i (w.actor.answer t a)

/-- If an actor has taken up a call, the call begins. -/
def launch (i : Nat) (s : Session σ) : Session σ :=
  match (s.worker i).actor.phase with
  | .calling t => { s with store := s.remote.begin t.call s.store }
  | _ => s

/-- How long an actor with a limit has to wait for its call; none if it is over at once. -/
def wait? (s : Session σ) (limit : Option Nat) : Option Nat :=
  match s.remote.pace with
  | .immediate => none
  | .prompt => none
  | .lasting d =>
    match s.givenUp? limit with
    | some 0 => none
    | some l => some l
    | none => some d

/-- **A small step of an actor**, given whether what it has waited for has come, and whether the
actor can go on after it. -/
def step (i : Nat) (isDue : Bool) (s : Session σ) : Session σ × Bool :=
  let w := s.worker i
  match w.actor.phase with
  | .waiting =>
    if isDue ∨ w.settings.initialDelay = 0 then
      ((s.adopt i (w.actor.begin .opening)).launch i, true)
    else
      let s := s.record [.delaying w.settings.initialDelay]
      (s.setAlarm (.actor i) w.settings.initialDelay, false)
  | .calling t =>
    match (if isDue then none else s.wait? w.settings.remoteTimeout) with
    | none => ((s.conclude i t).launch i, true)
    | some delay => (s.setAlarm (.actor i) delay, false)
  | .idle =>
    match w.actor.take? with
    | some r => ((s.adopt i r).launch i, true)
    | none => (s, false)
  | .stopped => (s, false)
  | .killed => (s, false)

/-- What a small step uses up of a turn: taking a command, and anything that can be waited for, is
an operation. -/
def cost (i : Nat) (isDue : Bool) (s : Session σ) : Nat :=
  match (s.worker i).actor.phase with
  | .waiting => if isDue then 1 else 0
  | .calling _ => if s.remote.pace = .immediate then 0 else 1
  | .idle => 1
  | .stopped => 0
  | .killed => 0

/-- An actor goes on until it has to wait or its turn allows no more, for a number of small steps at
most. -/
def go (i : Nat) : Nat → Nat → Bool → Session σ → Session σ
  | 0, _, _, s => s
  | n + 1, allowed, isDue, s =>
    let c := s.cost i isDue
    if allowed < c then s.modifySchedule (Schedule.pause (.actor i))
    else
      match s.step i isDue with
      | (s, false) => s
      | (s, true) => go i n (allowed - c) false s

/-- The operations that a turn allows. -/
def turnAllowance : Nat := 128

/-- More small steps than an actor can take before it has to wait: four for each command, and those
of the first fetch and of stopping. -/
def stepBound (w : Worker) : Nat := 4 * w.actor.queue.length + 8

/-- A call of the client ends. -/
def endOwnCall (i : Nat) (k : RemoteCall) (s : Session σ) : Session σ :=
  let (a, store) := s.remote.finish k s.store
  { s with store, ownCalls := s.ownCalls.set i (.answered ⟨k, a⟩) }

/-- A call of the client goes on. -/
def advanceOwnCall (i : Nat) (s : Session σ) : Session σ :=
  match s.ownCalls[i]? with
  | some (.unbegun k) =>
    let s := { s with store := s.remote.begin k s.store }
    match s.remote.pace with
    | .immediate => s.endOwnCall i k
    | .prompt => s.endOwnCall i k
    | .lasting d => { s with ownCalls := s.ownCalls.set i (.begun k) }.setAlarm (.call i) d
  | some (.begun k) => s.endOwnCall i k
  | _ => s

/-- A party takes its turn. -/
def takeTurn (t : Turn) (s : Session σ) : Session σ :=
  match t.party with
  | .client => s
  | .actor i => s.go i (stepBound (s.worker i)) turnAllowance t.isDue
  | .call i => s.advanceOwnCall i

/-- Turns are taken, a number of them at most; with whether there were so many. -/
def takeTurns : Nat → Session σ → Bool × Session σ
  | 0, s => (true, s)
  | n + 1, s =>
    match s.schedule.next? with
    | (none, schedule) => (false, { s with schedule })
    | (some t, schedule) => takeTurns n ({ s with schedule }.takeTurn t)

/-! ### Waiting -/

/-- What a client waits for. -/
structure Wait (σ α : Type) where
  /-- The client looks whether it has come. -/
  look : Session σ → Option α
  /-- A number that grows whenever the client is told to look. -/
  news : Session σ → Nat

/-- **A round**, with whether anything can happen after it. -/
def round (news : Session σ → Nat) (s : Session σ) : Bool × Session σ :=
  let (isFull, s') := s.takeTurns Schedule.roundLength
  let s' := if news s < news s' then s'.modifySchedule Schedule.stir else s'
  let (isOpen, schedule) := s'.schedule.rest isFull
  (isOpen, { s' with schedule })

/-- **The client waits** until it finds what it waits for, for a number of rounds at most. It looks
before each of them, and once more when nothing can happen any more. -/
def awaitFor {α : Type} (w : Wait σ α) : Nat → Session σ → Option α × Session σ
  | 0, s => (none, s)
  | n + 1, s =>
    match w.look s with
    | some x => (some x, s)
    | none =>
      match s.round w.news with
      | (true, s) => awaitFor w n s
      | (false, s) => (w.look s, s)

/-- More rounds than there can be before there is no more work: in a round someone takes a small
step, or an alarm goes off, or the schedule comes to rest after it was stirred. -/
def roundBound (s : Session σ) : Nat :=
  s.workers.foldl (fun n w ↦ n + 8 * stepBound w) (8 * s.ownCalls.length + 16)

/-- The client waits, for a number of milliseconds at most if there is a limit. -/
def await {α : Type} (w : Wait σ α) (limit : Option Nat) (s : Session σ) : Option α × Session σ :=
  let s := match limit with
    | none => s
    | some ms => s.setAlarm .client ms
  let (r, s) := awaitFor w s.roundBound s
  (r, s.modifySchedule (Schedule.clearAlarms .client))

/-- Whether the time for which the client waits is over. -/
def isTimeOver (s : Session σ) : Bool := !s.schedule.hasAlarm .client

/-- The client waits for some milliseconds, for one round at least. -/
def pass (ms : Nat) (s : Session σ) : Session σ :=
  let look (s : Session σ) : Option Unit := if s.isTimeOver then some () else none
  (s.await ⟨look, fun _ ↦ 0⟩ (some ms)).2

/-- An actor that waits for commands can go on, inside or outside the waits of the client. -/
def wake (f : Party → Schedule → Schedule) (i : Nat) (s : Session σ) : Session σ :=
  if (s.worker i).actor.phase = .idle ∧ !s.schedule.expects (.actor i) then
    s.modifySchedule (f (.actor i))
  else s

/-! ### What a client does -/

/-- Starts an actor, which takes the place of the one before. -/
def spawn (settings : Settings) (s : Session σ) : Session σ :=
  let i := s.workers.length
  let started := { s with
    workers := s.workers ++ [{ settings }]
    schedule := s.schedule.invite (.actor i)
    handle := some { worker := i } }
  -- The hold on the one before ends once the new one is there.
  match s.handle with
  | none => started
  | some h => (started.modifyActor h.worker Actor.release).wake Schedule.invite h.worker

/-- Lets go of the actor. -/
def drop (s : Session σ) : Except SessionError Unit × Session σ :=
  match s.handle with
  | none => (.error .notRunning, s)
  | some h =>
    let s := { s with handle := none }.modifyActor h.worker Actor.release
    (.ok (), s.wake Schedule.invite h.worker)

/-- Sends an action. -/
def dispatch (a : Action) (s : Session σ) : Except SessionError Unit × Session σ :=
  match s.handle with
  | none => (.error .notRunning, s)
  | some h =>
    let s := s.record [.dispatched a]
    -- It is on record even if no one is there to handle it.
    if (s.worker h.worker).actor.isGone then (.error .closed, s)
    else
      let s := { s with handle := some { h with dispatched := h.dispatched + 1 } }
      let s := s.modifyActor h.worker (Actor.enqueue (.handle a))
      (.ok (), s.wake Schedule.invite h.worker)

/-- The state published last. -/
def state (s : Session σ) : Except SessionError State :=
  match s.handle with
  | none => .error .notRunning
  | some h => .ok (s.worker h.worker).actor.state

/-- The state of an actor once it passes a test; an error if it is gone before. -/
def passing (i : Nat) (test : Actor → Bool) (s : Session σ) : Option (Except SessionError State) :=
  let a := (s.worker i).actor
  if test a then some (.ok a.state)
  else if a.isGone then some (.error .closed)
  else none

/-- Waits until all work given to the actor is done. -/
def settled (s : Session σ) : Except SessionError State × Session σ :=
  match s.handle with
  | none => (.error .notRunning, s)
  | some h =>
    let look := passing h.worker fun a ↦ h.dispatched ≤ a.processed
    let news (s : Session σ) : Nat :=
      let a := (s.worker h.worker).actor
      a.processed + a.isGone.toNat
    let (r, s) := s.await ⟨look, news⟩ none
    (r.getD (.error .never), s)

/-- The milliseconds for which a client waits for a state. -/
def patience : Nat := 3600000

/-- Waits for a state with a name. -/
def waitFor (name : String) (s : Session σ) : Except SessionError State × Session σ :=
  match s.handle with
  | none => (.error .notRunning, s)
  | some h =>
    let look (s : Session σ) : Option (Except SessionError State) :=
      match passing h.worker (fun a ↦ a.state.name = name) s with
      | some r => some r
      | none => if s.isTimeOver then some (.error .never) else none
    let news (s : Session σ) : Nat :=
      let a := (s.worker h.worker).actor
      a.version + a.isGone.toNat
    let (r, s) := s.await ⟨look, news⟩ (some patience)
    (r.getD (.error .never), s)

/-- Waits for some milliseconds. -/
def sleep (ms : Nat) (s : Session σ) : Session σ := if ms = 0 then s else s.pass ms

/-- Orders the actor to stop, and waits until it has. -/
def shutdown (s : Session σ) : Except SessionError State × Session σ :=
  match s.handle with
  | none => (.error .notRunning, s)
  | some h =>
    let s := { s with handle := none }.modifyActor h.worker (Actor.enqueue .shutdown)
    let look := passing h.worker fun a ↦ a.phase = .stopped
    let news (s : Session σ) : Nat := (s.worker h.worker).actor.isGone.toNat
    -- The order is given while the client waits already.
    let (r, s) := (s.wake Schedule.ready h.worker).await ⟨look, news⟩ none
    (r.getD (.error .never), s)

/-- Ends all actors wherever they are. Time begins anew. -/
def kill (s : Session σ) : Session σ :=
  -- Every call that was outstanding is given up.
  let outstanding := s.workers.filter fun w ↦
    match w.actor.phase with
    | .calling _ => true
    | _ => false
  { s with
    store := outstanding.foldl (fun store _ ↦ s.remote.abandon store) s.store
    workers := s.workers.map fun w ↦ { w with actor := w.actor.kill }
    schedule := {} }

/-- One more receiver, and its number. -/
def subscribe (s : Session σ) : Except SessionError Nat × Session σ :=
  match s.handle with
  | none => (.error .notRunning, s)
  | some h =>
    (.ok s.receivers.length, { s with receivers := s.receivers ++ [{ worker := h.worker }] })

/-- What a receiver sees. -/
inductive Sight where
  | changed
  | unchanged
  /-- There will be no more states. -/
  | closed
deriving DecidableEq

/-- A receiver looks at the state published last. -/
def observe (i : Nat) (s : Session σ) : Option (Sight × State) × Session σ :=
  match s.receivers[i]? with
  | none => (none, s)
  | some r =>
    let a := (s.worker r.worker).actor
    let sight : Sight :=
      if a.isGone then .closed else if r.seen < a.version then .changed else .unchanged
    (some (sight, a.state), { s with receivers := s.receivers.set i { r with seen := a.version } })

/-- **The client makes a call on the store itself**, and waits for it. -/
def call (k : RemoteCall) (s : Session σ) : Exchange × Session σ :=
  let s := { s with store := s.remote.begin k s.store }
  let s := match s.remote.pace with
    | .immediate => s
    | .prompt => s
    | .lasting ms => s.pass ms
  let (a, store) := s.remote.finish k s.store
  (⟨k, a⟩, { s with store })

/-- How many calls of the client are answered, up to the first that is not. -/
def answered (s : Session σ) : Nat :=
  (s.ownCalls.takeWhile fun c ↦ c.exchange?.isSome).length

/-- **The client sets some calls going**, and waits for all of them. -/
def callAll (ks : List RemoteCall) (s : Session σ) : List Exchange × Session σ :=
  let s := { s with
    ownCalls := ks.map .unbegun
    schedule := (List.range ks.length).foldl (fun sch i ↦ sch.invite (.call i)) s.schedule }
  let look (s : Session σ) : Option (List Exchange) := s.ownCalls.mapM OwnCall.exchange?
  let (r, s) := s.await ⟨look, fun s ↦ s.answered⟩ none
  (r.getD [], { s with ownCalls := [] })

end Session

end TraceReconciler
