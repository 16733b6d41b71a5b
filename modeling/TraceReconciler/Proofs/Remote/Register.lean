import TraceReconciler.Remote.Memory

/-!
# A store in memory is a register with one-shot failures

Tests write to a store in memory, queue failures for it and give calls up while they wait. What such
a store answers can be told from what has been done to it, without knowing how it works.

The operations on a store are kept as a history, newest first, and the history alone says what the
store should hold (`latest`), which failures should wait for each kind of calls (`waiting`), and
what a call that is finished now should answer (`due`): the oldest failure that waits for its kind,
or else success. A history is one of calls made one at a time (`Runs`): a call begins when no other
is outstanding, and ends by being finished or by being abandoned. Everything else may happen while
it waits.

**After every history the store is in the state that the history says**, and every answer in it was
the one that was due (`Runs.actsAsRegister`). One step preserves this, whichever operation it is.
-/

namespace TraceReconciler

/-- The kinds of calls that failures wait for. -/
inductive CallKind where
  | fetch
  | push
deriving DecidableEq

/-- The kind of a call. -/
def RemoteCall.kind : RemoteCall → CallKind
  | .fetch => .fetch
  | .push _ => .push

namespace Memory

/-- The failures that wait for calls of a kind, oldest first. -/
def failures (s : Memory) : CallKind → List RemoteError
  | .fetch => s.fetchFailures
  | .push => s.pushFailures

/-- Makes one more call of a kind fail. -/
def fail : CallKind → RemoteError → Memory → Memory
  | .fetch => failFetch
  | .push => failPush

/-! ### Histories -/

/-- An operation on a store, with its answer if it has one. -/
inductive Operation where
  /-- What is stored is replaced. -/
  | set (c : Option Configuration)
  /-- A failure is queued. -/
  | fail (i : CallKind) (e : RemoteError)
  /-- A call begins. -/
  | begun (k : RemoteCall)
  /-- The outstanding call is finished with an answer. -/
  | finished (k : RemoteCall) (a : k.Answer)
  /-- The outstanding call is abandoned. -/
  | abandoned (k : RemoteCall)

/-- **One operation**, with the outstanding call before and after it. -/
inductive Step : Memory → Option RemoteCall → Operation → Memory → Option RemoteCall → Prop
  | set {s : Memory} {w : Option RemoteCall} (c : Option Configuration) :
      Step s w (.set c) (s.set c) w
  | fail {s : Memory} {w : Option RemoteCall} (i : CallKind) (e : RemoteError) :
      Step s w (.fail i e) (s.fail i e) w
  | begun {s : Memory} (k : RemoteCall) : Step s none (.begun k) (s.begin k) (some k)
  | finished {s : Memory} (k : RemoteCall) :
      Step s (some k) (.finished k (s.finish k).1) (s.finish k).2 none
  | abandoned {s : Memory} (k : RemoteCall) : Step s (some k) (.abandoned k) s.abandon none

/-- **A history of a store**, newest first, from what it held at the start: where it has led, and
which call is outstanding. -/
inductive Runs (seed : Option Configuration) :
    List Operation → Memory → Option RemoteCall → Prop
  | start : Runs seed [] { stored := seed } none
  | step {h : List Operation} {s s' : Memory} {w w' : Option RemoteCall} {o : Operation}
      (hrun : Runs seed h s w) (hstep : Step s w o s' w') : Runs seed (o :: h) s' w'

/-! ### What a history says -/

/-- What an operation writes: a push only if it succeeds. -/
def Operation.written? : Operation → Option (Option Configuration)
  | .set c => some c
  | .finished (.push c) (.ok _) => some (some c)
  | _ => none

/-- The call that an operation begins. -/
def Operation.call? : Operation → Option RemoteCall
  | .begun k => some k
  | _ => none

/-- What was written last, or what was there at the start. -/
def latest (seed : Option Configuration) (h : List Operation) : Option Configuration :=
  (h.findSome? Operation.written?).getD seed

/-- The failures that wait for calls of a kind: those that were queued for it, of which every call
of the kind that was finished has taken the oldest. -/
def waiting (i : CallKind) : List Operation → List RemoteError
  | [] => []
  | .fail j e :: h => if j = i then waiting i h ++ [e] else waiting i h
  | .finished k _ :: h => if k.kind = i then (waiting i h).tail else waiting i h
  | _ :: h => waiting i h

/-- The calls that have begun, oldest first. -/
def made (h : List Operation) : List RemoteCall := (h.filterMap Operation.call?).reverse

/-- What a call answers that no failure waits for. -/
def success (stored : Option Configuration) : (k : RemoteCall) → k.Answer
  | .fetch => match stored with
    | some c => .ok c
    | none => .error .notFound
  | .push _ => .ok ()

/-- **The answer that is due**: the oldest failure that waits for the kind of the call, or else
success. -/
def due (stored : Option Configuration) (waiting : List RemoteError) (k : RemoteCall) : k.Answer :=
  match waiting with
  | e :: _ => .error e
  | [] => success stored k

/-! ### One operation -/

/-- **What finishing a call does.** -/
structure Finishes (k : RemoteCall) (s : Memory) (a : k.Answer) (s' : Memory) : Prop where
  /-- It answers what is due, -/
  answer : a = due s.stored (s.failures k.kind) k
  /-- writes if it has succeeded, -/
  stored : s'.stored = (Operation.finished k a).written?.getD s.stored
  /-- takes the oldest failure of its kind, and none of the other, -/
  failures : ∀ i, s'.failures i = if k.kind = i then (s.failures i).tail else s.failures i
  /-- and was on record already. -/
  calls : s'.calls = s.calls

theorem finish_finishes (s : Memory) (k : RemoteCall) :
    Finishes k s (s.finish k).1 (s.finish k).2 := by
  obtain ⟨stored, calls, fetchFailures, pushFailures, inFlight, maxInFlight⟩ := s
  cases k with
  | fetch =>
    cases fetchFailures with
    | cons e rest => exact ⟨rfl, rfl, fun i ↦ by cases i <;> rfl, rfl⟩
    | nil => cases stored <;> exact ⟨rfl, rfl, fun i ↦ by cases i <;> rfl, rfl⟩
  | push c =>
    cases pushFailures with
    | cons e rest => exact ⟨rfl, rfl, fun i ↦ by cases i <;> rfl, rfl⟩
    | nil => exact ⟨rfl, rfl, fun i ↦ by cases i <;> rfl, rfl⟩

theorem failures_fail (s : Memory) (i j : CallKind) (e : RemoteError) :
    (s.fail j e).failures i = if j = i then s.failures i ++ [e] else s.failures i := by
  cases i <;> cases j <;> rfl

namespace Step

variable {s s' : Memory} {w w' : Option RemoteCall} {o : Operation}

theorem stored_eq (h : Step s w o s' w') : s'.stored = o.written?.getD s.stored := by
  cases h with
  | fail i e => cases i <;> rfl
  | finished k => exact (s.finish_finishes k).stored
  | _ => rfl

theorem failures_eq (h : Step s w o s' w') {l : List Operation} {i : CallKind}
    (hl : s.failures i = waiting i l) : s'.failures i = waiting i (o :: l) := by
  cases h with
  | set c => exact hl
  | fail j e => rw [failures_fail, hl, waiting]
  | begun k => exact hl
  | finished k => rw [(s.finish_finishes k).failures, hl, waiting]
  | abandoned k => exact hl

theorem calls_eq (h : Step s w o s' w') : s'.calls = s.calls ++ o.call?.toList := by
  cases h with
  | set c => exact (List.append_nil _).symm
  | fail i e => cases i <;> exact (List.append_nil _).symm
  | begun k => rfl
  | finished k => exact (s.finish_finishes k).calls.trans (List.append_nil _).symm
  | abandoned k => exact (List.append_nil _).symm

end Step

/-! ### All histories -/

variable {seed : Option Configuration} {h : List Operation} {s s' : Memory}
  {w w' : Option RemoteCall} {o : Operation}

/-- **A store that can be told from its history.** -/
structure Follows (seed : Option Configuration) (h : List Operation) (s : Memory) : Prop where
  /-- Every call that was finished has answered what was due. -/
  answer : ∀ k a before, .finished k a :: before <:+ h →
    a = due (latest seed before) (waiting k.kind before) k
  /-- What is stored was written last. -/
  stored : s.stored = latest seed h
  /-- The failures that wait are those that no call has taken. -/
  failures : ∀ i, s.failures i = waiting i h
  /-- All calls are on record. -/
  calls : s.calls = made h

theorem follows_start (seed : Option Configuration) : Follows seed [] { stored := seed } where
  answer _ _ _ hsuffix := absurd (List.suffix_nil.1 hsuffix) (List.cons_ne_nil _ _)
  stored := rfl
  failures i := by cases i <;> rfl
  calls := rfl

/-- **One operation more.** -/
theorem Follows.step (hs : Follows seed h s) (hstep : Step s w o s' w') :
    Follows seed (o :: h) s' where
  answer := by
    intro k a before hsuffix
    rcases List.suffix_cons_iff.1 hsuffix with heq | hsuffix
    · obtain ⟨rfl, rfl⟩ := List.cons.inj heq
      cases hstep
      rw [(s.finish_finishes k).answer, hs.stored, hs.failures]
    · exact hs.answer k a before hsuffix
  stored := by
    rw [hstep.stored_eq, hs.stored, latest, latest, List.findSome?_cons]
    cases o.written? <;> rfl
  failures i := hstep.failures_eq (hs.failures i)
  calls := by
    rw [hstep.calls_eq, hs.calls, made, made, List.filterMap_cons]
    cases o.call? <;> simp

/-- **Many operations**, one after another. -/
theorem Runs.follows (hrun : Runs seed h s w) : Follows seed h s := by
  induction hrun with
  | start => exact follows_start seed
  | step _ hstep ih => exact ih.step hstep

/-- A call on the store as a remote is one that begins and is finished at once. -/
theorem Runs.remote (hrun : Runs seed h s none) (k : RemoteCall) :
    Runs seed (.finished k (remote k s).1 :: .begun k :: h) (remote k s).2 none :=
  (hrun.step (.begun k)).step (.finished k)

/-- **A register with one-shot failures**: its history says everything, and calls that do not
succeed leave it alone. -/
structure ActsAsRegister (seed : Option Configuration) (h : List Operation) (s : Memory)
    (w : Option RemoteCall) : Prop extends Follows seed h s where
  /-- The configurations that were to be written are on record. -/
  pushes : s.pushes = (made h).filterMap RemoteCall.pushed?
  /-- A call that is abandoned next leaves everything as it is, -/
  abandoned : ∀ k s' w', Step s w (.abandoned k) s' w' →
    s'.stored = s.stored ∧ ∀ i, s'.failures i = s.failures i
  /-- and one that fails leaves what is stored, and the failures of the other kind. -/
  failed : ∀ k e s' w', Step s w (.finished k (.error e)) s' w' →
    s'.stored = s.stored ∧ ∀ i, i ≠ k.kind → s'.failures i = s.failures i

/-- **A store in memory acts as a register with one-shot failures**, after every history of
operations on it. -/
theorem actsAsRegister_of_runs (hrun : Runs seed h s w) : ActsAsRegister seed h s w where
  toFollows := hrun.follows
  pushes := by rw [Memory.pushes, hrun.follows.calls]
  abandoned := by
    intro k s' w' hstep
    exact ⟨hstep.stored_eq, fun i ↦
      (hstep.failures_eq (hrun.follows.failures i)).trans (hrun.follows.failures i).symm⟩
  failed := by
    intro k e s' w' hstep
    have hwritten : (Operation.finished k (.error e)).written? = none := by cases k <;> rfl
    refine ⟨by rw [hstep.stored_eq, hwritten]; rfl, fun i hi ↦ ?_⟩
    rw [hstep.failures_eq (hrun.follows.failures i), waiting, if_neg hi.symm,
      hrun.follows.failures]

/-- A push that is abandoned and two that are finished, the first of which takes the failure that
was queued before; a failure that is queued for a fetch waits for it. -/
theorem actsAsRegister_of_runs_push :
    let c : Configuration := { gc := some (.ofList [1]) }
    let down : RemoteError := .failed "down"
    let h : List Operation := [.finished .fetch (.error .notFound), .begun .fetch,
      .finished (.push c) (.ok ()), .begun (.push c), .finished (.push c) (.error down),
      .fail .fetch .notFound, .begun (.push c), .abandoned (.push c), .begun (.push c),
      .fail .push down]
    ∃ s, Runs none h s none ∧ ActsAsRegister none h s none ∧ s.stored = some c ∧
      s.pushes = [c, c, c] := by
  intro c down h
  have hrun : Runs none h _ none :=
    .step (.step (.step (.step (.step (.step (.step (.step (.step (.step .start (.fail .push down))
      (.begun (.push c))) (.abandoned (.push c))) (.begun (.push c))) (.fail .fetch .notFound))
      (.finished (.push c))) (.begun (.push c))) (.finished (.push c))) (.begun .fetch))
      (.finished .fetch)
  exact ⟨_, hrun, actsAsRegister_of_runs hrun, rfl, rfl⟩

end Memory

end TraceReconciler
