import TraceReconciler.Actor.Basic
import TraceReconciler.Proofs.Reconcile.Collapse
import TraceReconciler.Proofs.Reconcile.Journal
import Mathlib.Logic.Relation

/-!
# An actor among others

The actor together with everything around it: the clients that send commands, the store that
answers, and whoever else writes to the store. A **system** is the actor, the store, whether the
store has begun the call of the actor, the commands sent so far, and the journal of what the actor
has done. It goes on in small steps (`System.Step`), in any order: a command may be sent between any
two of them, also before the first fetch and while a call is outstanding.

**Nothing is assumed of the store.** A `StoreBehaviour` says how a call may begin, how it may end
and with which answer, and what may happen to the store besides. Where it allows every answer to
every call, a system shows whatever an actor can do with whatever a store can answer: successes,
failures, and calls that took too long, in any pattern.

## One inversion for all invariants

`Actor.Moves` lists what an actor can do in one small step, with the events and the actor after it.
That is all an invariant about journals has to look at (`System.invariant`): the other steps append
to the queue, let go of the actor, or are no business of the actor at all.
-/

namespace TraceReconciler

open Relation

/-! ### What an answer leads to -/

namespace Stage

/-- The answers that lead to another stage. -/
inductive Leads : (t : Stage) → t.call.Answer → Stage → Prop
  | unwritten : Leads .opening (.error .notFound) .seeding
  | seeded : Leads .seeding (.ok ()) .confirming
  | submitted (c : Configuration) : Leads (.submitting c) (.ok ()) .confirming

/-- The answers that bring an errand to a good end, and what they bring. -/
inductive Brings : (t : Stage) → t.call.Answer → Configuration → Prop
  | opening (c : Configuration) : Brings .opening (.ok c) c
  | confirming (c : Configuration) : Brings .confirming (.ok c) c

theorem leads_of_resume {t t' : Stage} {r : t.call.Answer} (h : t.resume r = .inl t') :
    Leads t r t' := by
  cases t <;> rcases r with (_ | _) | _ <;> simp only [resume] at h <;> cases h
  · exact .unwritten
  · exact .seeded
  · exact .submitted _

theorem brings_of_resume {t : Stage} {r : t.call.Answer} {c : Configuration}
    (h : t.resume r = .inr (.ok c)) : Brings t r c := by
  cases t <;> rcases r with (_ | _) | d <;> simp only [resume] at h <;> cases h
  · exact .opening c
  · exact .confirming c

/-- An errand fails with the failure of its last call. -/
theorem eq_error_of_resume {t : Stage} {r : t.call.Answer} {e : RemoteError}
    (h : t.resume r = .inr (.error e)) : r = .error e := by
  cases t <;> rcases r with (_ | _) | _ <;> simp_all [resume]

/-- Nothing is handled in the course of an errand. -/
theorem handled_answered_start {t t' : Stage} (r : t.call.Answer) :
    Journal.handled (.answered t.call r :: t'.start) = [] := by
  cases t' <;> rfl

end Stage

/-! ### Moves -/

namespace Actor

/-- **What an actor can do**, with what happens and what the actor becomes. -/
inductive Moves (a : Actor) : List Event → Actor → Prop
  /-- It calls the first fetch. -/
  | opened (hp : a.phase = .waiting) :
      Moves a [.called .fetch] { a with phase := .calling .opening }
  /-- It gets an answer that leads to another call. -/
  | passed {t t' : Stage} {r : t.call.Answer} (hp : a.phase = .calling t)
      (hr : t.resume r = .inl t') :
      Moves a (.answered t.call r :: t'.start) { a with phase := .calling t' }
  /-- It gets an answer that ends the errand. -/
  | settled {t : Stage} {r : t.call.Answer} {o : Stage.Outcome} (hp : a.phase = .calling t)
      (hr : t.resume r = .inr o) :
      Moves a [.answered t.call r, .published a.state (.settle o)]
        ({ a with state := .settle o, version := a.version + 1 } : Actor).rest
  /-- It takes an action without a meaning. -/
  | ignored {x : Action} {q : List Command} (hp : a.phase = .idle) (hq : a.queue = .handle x :: q)
      (hx : a.state.transition x = {}) :
      Moves a [.taken x, .ignored x a.state] ({ a with queue := q } : Actor).rest
  /-- It takes a local edit. -/
  | edited {e : Change} {q : List Command} {l b : Configuration} (hp : a.phase = .idle)
      (hq : a.queue = .handle (.change e) :: q) (hl : a.state.localConfiguration? = some l)
      (hb : a.state.backend? = some b) :
      Moves a [.taken (.change e), .published a.state (.compare (l.apply e) b)]
        ({ a with
          queue := q, state := .compare (l.apply e) b, version := a.version + 1 } : Actor).rest
  /-- It takes the order to submit local edits. -/
  | submitted {q : List Command} {l b : Configuration} (hp : a.phase = .idle)
      (hq : a.queue = .handle .synchronize :: q) (hs : a.state = .diverged l b) :
      Moves a [.taken .synchronize, .called (.push l)]
        { a with queue := q, phase := .calling (.submitting l) }
  /-- It takes the order to submit the empty configuration. -/
  | cleared {q : List Command} {b : Configuration} (hp : a.phase = .idle)
      (hq : a.queue = .handle .reset :: q) (hb : a.state.backend? = some b) :
      Moves a [.taken .reset, .called (.push ∅)]
        { a with queue := q, phase := .calling (.submitting ∅) }
  /-- It takes the order to start again. -/
  | restarted {q : List Command} {e : RemoteError} (hp : a.phase = .idle)
      (hq : a.queue = .handle .retry :: q) (hs : a.state = .error e) :
      Moves a [.taken .retry, .published a.state .uninitialized, .called .fetch]
        { a with
          queue := q, state := .uninitialized, version := a.version + 1
          phase := .calling .opening }
  /-- It takes the order to stop. -/
  | closed {q : List Command} (hp : a.phase = .idle) (hq : a.queue = .shutdown :: q) :
      Moves a [.closing, .stopped a.state] { a with queue := q, phase := .stopped }
  /-- It stops because there is nothing to be done and no one holds it any more. -/
  | ended (hp : a.phase = .idle) (hq : a.queue = []) (hh : a.isHeld = false) :
      Moves a [.stopped a.state] { a with phase := .stopped }

theorem moves_begin {a : Actor} (hp : a.phase = .waiting) :
    Moves a (a.begin .opening).2 (a.begin .opening).1 :=
  .opened hp

theorem moves_answer {a : Actor} {t : Stage} (hp : a.phase = .calling t) (r : t.call.Answer) :
    Moves a (a.answer t r).2 (a.answer t r).1 := by
  rw [answer]
  cases hr : t.resume r with
  | inl t' => exact .passed hp hr
  | inr o => exact .settled hp hr

/-- An action at the head of the queue is handled. -/
theorem moves_act {a : Actor} {x : Action} {q : List Command} (hp : a.phase = .idle)
    (hq : a.queue = .handle x :: q) :
    Moves a (({ a with queue := q } : Actor).act x).2
      (({ a with queue := q } : Actor).act x).1 := by
  obtain ⟨s, phase, queue, isHeld, processed, version⟩ := a
  subst hp hq
  have hr := s.reaction x
  rw [act]
  dsimp only
  generalize ht : s.transition x = t at hr ⊢
  cases hr with
  | ignored => exact .ignored rfl rfl ht
  | edited hl hb => exact .edited rfl rfl hl hb
  | submitted => exact .submitted rfl rfl rfl
  | cleared hb => exact .cleared rfl rfl hb
  | restarted => exact .restarted rfl rfl rfl

/-- **Whatever an actor does when it takes a command is a move.** -/
theorem moves_of_take? {a a' : Actor} {es : List Event} (h : a.take? = some (a', es)) :
    Moves a es a' := by
  rw [take?] at h
  split at h
  · next x q hp hq =>
    obtain ⟨rfl, rfl⟩ := Prod.mk.inj (Option.some.inj h)
    exact moves_act hp hq
  · next q hp hq =>
    obtain ⟨rfl, rfl⟩ := Prod.mk.inj (Option.some.inj h)
    exact .closed hp hq
  · next hp hq =>
    split at h
    · cases h
    · next hh =>
      obtain ⟨rfl, rfl⟩ := Prod.mk.inj (Option.some.inj h)
      exact .ended hp hq (Bool.not_eq_true _ ▸ hh)
  · cases h

/-- No move lets go of the actor. -/
theorem Moves.isHeld_eq {a a' : Actor} {es : List Event} (h : a.Moves es a') :
    a'.isHeld = a.isHeld := by
  cases h <;> rfl

/-- An actor that has stopped does nothing more. -/
theorem Moves.phase_ne_stopped {a a' : Actor} {es : List Event} (h : a.Moves es a') :
    a.phase ≠ .stopped := by
  intro hs
  cases h <;> simp_all

/-- **What a move does to the queue**: the actions that are handled leave it at the head, and
nothing else does but the order to stop. -/
theorem Moves.queue_eq {a a' : Actor} {es : List Event} (h : a.Moves es a') :
    a'.phase ≠ .stopped ∧ a.queue = (Journal.handled es).map .handle ++ a'.queue ∨
      a'.phase = .stopped ∧ Journal.handled es = [] ∧
        (a.queue = .shutdown :: a'.queue ∨ a.queue = []) := by
  cases h with
  | opened hp => exact .inl ⟨by simp, rfl⟩
  | @passed t t' r hp hr =>
    refine .inl ⟨by simp, ?_⟩
    rw [Stage.handled_answered_start]
    rfl
  | settled hp hr => exact .inl ⟨by simp [rest], rfl⟩
  | ignored hp hq hx => exact .inl ⟨by simp [rest], hq⟩
  | edited hp hq hl hb => exact .inl ⟨by simp [rest], hq⟩
  | submitted hp hq hs => exact .inl ⟨by simp, hq⟩
  | cleared hp hq hb => exact .inl ⟨by simp, hq⟩
  | restarted hp hq hs => exact .inl ⟨by simp, hq⟩
  | closed hp hq => exact .inr ⟨rfl, rfl, .inl hq⟩
  | ended hp hq hh => exact .inr ⟨rfl, rfl, .inr hq⟩

end Actor

/-! ### Systems -/

/-- What a store may do. -/
structure StoreBehaviour (σ : Type) where
  /-- A call may begin with a change of the store. -/
  Begins : RemoteCall → σ → σ → Prop
  /-- A call that has begun may end with an answer and a change of the store. -/
  Ends : (k : RemoteCall) → σ → k.Answer → σ → Prop
  /-- Others may change the store. -/
  Stirs : σ → σ → Prop

/-- An actor and what is around it. -/
structure System (σ : Type) where
  actor : Actor := {}
  store : σ
  /-- Whether the store has begun the call of the actor. -/
  isBegun : Bool := false
  /-- The commands sent so far, oldest first. -/
  sent : List Command := []
  /-- What the actor has done so far. -/
  journal : List Event := []

namespace System

variable {σ : Type}

/-- The actor has done something. -/
def adopt (r : Actor × List Event) (s : System σ) : System σ :=
  { s with actor := r.1, isBegun := false, journal := s.journal ++ r.2 }

/-- **A small step of a system.** -/
inductive Step (w : StoreBehaviour σ) (s : System σ) : System σ → Prop
  /-- A client that holds the actor sends a command, which an actor that is gone does not get. -/
  | send (c : Command) (hg : s.actor.isGone = false) (hh : s.actor.isHeld = true) :
      Step w s { s with actor := s.actor.enqueue c, sent := s.sent ++ [c] }
  /-- The last client lets go of the actor. -/
  | release (hh : s.actor.isHeld = true) : Step w s { s with actor := s.actor.release }
  /-- Others change the store. -/
  | stir {y : σ} (hy : w.Stirs s.store y) : Step w s { s with store := y }
  /-- The actor begins to work. -/
  | start (hp : s.actor.phase = .waiting) : Step w s (s.adopt (s.actor.begin .opening))
  /-- The store begins the call of the actor. -/
  | call {t : Stage} {y : σ} (hp : s.actor.phase = .calling t) (hb : s.isBegun = false)
      (hy : w.Begins t.call s.store y) : Step w s { s with store := y, isBegun := true }
  /-- The actor gets the answer to its call. -/
  | answer {t : Stage} {r : t.call.Answer} {y : σ} (hp : s.actor.phase = .calling t)
      (hb : s.isBegun = true) (hy : w.Ends t.call s.store r y) :
      Step w s ({ s with store := y }.adopt (s.actor.answer t r))
  /-- The actor takes the next command. -/
  | take {r : Actor × List Event} (hr : s.actor.take? = some r) : Step w s (s.adopt r)

/-- A system in which nothing has happened. -/
def initial (x : σ) : System σ := { store := x }

/-- **What a system with a store can come to**, in any order of its steps. -/
def Reachable (w : StoreBehaviour σ) (x : σ) : System σ → Prop :=
  ReflTransGen (Step w) (initial x)

/-- **An invariant of commands, journal and actor** is one of systems, if it survives that a command
is sent, that the actor is let go, and every move of the actor. -/
theorem invariant {P : List Command → List Event → Actor → Prop} (start : P [] [] {})
    (send : ∀ {cs j a} c, a.isGone = false → P cs j a → P (cs ++ [c]) j (a.enqueue c))
    (release : ∀ {cs j a}, P cs j a → P cs j a.release)
    (moves : ∀ {cs j a es a'}, a.Moves es a' → P cs j a → P cs (j ++ es) a')
    {w : StoreBehaviour σ} {x : σ} {s : System σ} (h : Reachable w x s) :
    P s.sent s.journal s.actor := by
  induction h with
  | refl => exact start
  | tail _ hstep ih =>
    cases hstep with
    | send c hg hh => exact send c hg ih
    | release hh => exact release ih
    | stir hy => exact ih
    | start hp => exact moves (Actor.moves_begin hp) ih
    | call hp hb hy => exact ih
    | answer hp hb hy => exact moves (Actor.moves_answer hp _) ih
    | take hr => exact moves (Actor.moves_of_take? hr) ih

/-! ### First come, first served -/

/-- The actions to be handled: those sent before the order to stop. -/
def due : List Command → List Action
  | [] => []
  | .handle x :: cs => x :: due cs
  | .shutdown :: _ => []

theorem due_append (as : List Action) (cs : List Command) :
    due (as.map .handle ++ cs) = as ++ due cs := by
  induction as with
  | nil => rfl
  | cons a as ih => rw [List.map_cons, List.cons_append, due, ih, List.cons_append]

/-- The commands sent are those that the actor has taken, in the order in which it took them, and
those that it has not taken yet. The order to stop is the last command that an actor takes. -/
def InOrder (cs : List Command) (j : List Event) (a : Actor) : Prop :=
  ∃ rest, cs = (Journal.handled j).map .handle ++ rest ∧
    (a.phase ≠ .stopped → rest = a.queue) ∧
    (a.phase = .stopped → rest = .shutdown :: a.queue ∨ rest = [])

theorem inOrder_moves {cs : List Command} {j es : List Event} {a a' : Actor}
    (hm : a.Moves es a') (h : InOrder cs j a) : InOrder cs (j ++ es) a' := by
  obtain ⟨rest, rfl, hrest, -⟩ := h
  obtain rfl := hrest hm.phase_ne_stopped
  rcases hm.queue_eq with ⟨hp, hq⟩ | ⟨hp, hes, hq⟩
  · refine ⟨a'.queue, ?_, fun _ ↦ rfl, fun hs ↦ absurd hs hp⟩
    rw [hq, Journal.handled_append, List.map_append, List.append_assoc]
  · refine ⟨a.queue, ?_, fun hs ↦ absurd hp hs, fun _ ↦ hq⟩
    rw [Journal.handled_append, hes, List.append_nil]

theorem inOrder {w : StoreBehaviour σ} {x : σ} {s : System σ} (h : Reachable w x s) :
    InOrder s.sent s.journal s.actor := by
  refine invariant (P := InOrder) ?_ ?_ (fun h ↦ h) inOrder_moves h
  · exact ⟨[], rfl, fun _ ↦ rfl, fun h ↦ by cases h⟩
  · rintro cs j a c hg ⟨rest, rfl, hrest, -⟩
    have hp : a.phase ≠ .stopped := fun hp ↦ by simp [Actor.isGone, hp] at hg
    refine ⟨rest ++ [c], by rw [List.append_assoc], fun _ ↦ ?_, fun hs ↦ absurd hs hp⟩
    rw [hrest hp]
    rfl

/-- **No action is handled twice, or before one that was sent earlier**, or after the order to
stop. -/
theorem handled_prefix_due {w : StoreBehaviour σ} {x : σ} {s : System σ} (h : Reachable w x s) :
    Journal.handled s.journal <+: due s.sent := by
  obtain ⟨rest, hsent, -⟩ := inOrder h
  rw [hsent, due_append]
  exact List.prefix_append _ _

/-- **An actor that has stopped has handled every action** sent before the order to stop. -/
theorem handled_eq_due {w : StoreBehaviour σ} {x : σ} {s : System σ} (h : Reachable w x s)
    (hs : s.actor.phase = .stopped) : Journal.handled s.journal = due s.sent := by
  obtain ⟨rest, hsent, -, hrest⟩ := inOrder h
  rw [hsent, due_append]
  rcases hrest hs with rfl | rfl
  · rw [due, List.append_nil]
  · rw [due, List.append_nil]

end System

end TraceReconciler
