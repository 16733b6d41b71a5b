import TraceReconciler.Proofs.Actor.Interleaving
import TraceReconciler.Proofs.Actor.Turn
import Mathlib.Data.List.Nodup
import Mathlib.Data.List.Perm.Subperm
import Mathlib.Logic.Function.Basic

/-!
# Clients that share their hold on an actor

Several clients may hold one actor together. **Work is counted on both sides**: a client that sends
an action adds one to the work given, once the action is in the queue, and the actor adds one to the
work done, once the action has been handled. A client that waits notes the work given, and goes on
when the work done has come up to it. The first fetch is one unit on either side.

**To send and to count are two steps**, and so are to handle and to count. In between, other clients
send, count and wait. The actor does not mind: it handles and counts an action that is in the queue
whether or not the one who sent it has come to count it. So the work done may comprise an action
that the work given does not, and a client that compares the two can be told that all is done while
an action behind that one, which has been counted, still waits in the queue
(`Shared.exists_overtaken`).

## What a wait is worth

The work given counts the actions of all dispatches that have returned, and the work done counts the
actions at the head of the queue. What the two have in common is a number, not the actions: a client
that noted `n` returned dispatches goes on when the *first* `n` actions of the queue have been
handled. Actions that it knows of are among the others only as far as there were dispatches under
way, between their two steps, when it began to wait. Without any it is told what it wants to know
(`Shared.Reachable.underWay_eq_zero_iff`), and so is the client of a session, which has its actors
for itself and takes the two steps at once (`Session.dispatch_steps`).
-/

namespace TraceReconciler

open Relation

variable {σ : Type}

/-! ### What has been handled -/

/-- No move undoes work. -/
theorem Actor.Moves.processed_le {a a' : Actor} {es : List Event} (h : a.Moves es a') :
    a.processed ≤ a'.processed := by
  cases h <;> simp [Actor.rest]

namespace System

open Journal

/-- The actions handled to their end: all that were taken, but for one whose errand is not over. -/
def finished (s : System σ) : List Action :=
  match s.actor.phase with
  | .calling _ => (handled s.journal).dropLast
  | _ => handled s.journal

/-- The action at a place among the commands sent has been handled to its end. -/
def HasHandled (s : System σ) (p : Nat) : Prop := p < s.finished.length

instance (s : System σ) : DecidablePred s.HasHandled := fun p ↦
  inferInstanceAs (Decidable (p < s.finished.length))

/-- The units of work that an actor has done, by what it has handled: the first fetch is one, and an
errand that is not over is none. -/
def Counted (j : List Event) (a : Actor) : Prop :=
  match a.phase with
  | .waiting => a.processed = 0 ∧ handled j = []
  | .calling _ => a.processed = (handled j).length
  | .idle => a.processed = (handled j).length + 1
  | .stopped => a.processed = (handled j).length + 1
  | .killed => False

theorem Counted.of_calling {j : List Event} {a : Actor} (h : Counted j a) {t : Stage}
    (hp : a.phase = .calling t) : a.processed = (handled j).length := by
  rw [Counted, hp] at h
  exact h

theorem Counted.of_idle {j : List Event} {a : Actor} (h : Counted j a) (hp : a.phase = .idle) :
    a.processed = (handled j).length + 1 := by
  rw [Counted, hp] at h
  exact h

variable {j es : List Event} {a a' : Actor}

/-- An action that is handled at once is one more on either side. -/
theorem Counted.rest (h : Counted j a) (hp : a.phase = .idle) (hp' : a'.phase = .idle)
    (hn : a'.processed = a.processed + 1) (hes : (handled es).length = 1) :
    Counted (j ++ es) a' := by
  rw [Counted, hp']
  show a'.processed = (handled (j ++ es)).length + 1
  rw [hn, h.of_idle hp, handled_append, List.length_append, hes]

/-- An action that takes an errand is counted when the errand is over. -/
theorem Counted.errand (h : Counted j a) (hp : a.phase = .idle) {t : Stage}
    (hp' : a'.phase = .calling t) (hn : a'.processed = a.processed)
    (hes : (handled es).length = 1) : Counted (j ++ es) a' := by
  rw [Counted, hp']
  show a'.processed = (handled (j ++ es)).length
  rw [hn, h.of_idle hp, handled_append, List.length_append, hes]

/-- To stop is no work. -/
theorem Counted.stop (h : Counted j a) (hp : a.phase = .idle) (hp' : a'.phase = .stopped)
    (hn : a'.processed = a.processed) (hes : handled es = []) : Counted (j ++ es) a' := by
  rw [Counted, hp']
  show a'.processed = (handled (j ++ es)).length + 1
  rw [hn, h.of_idle hp, handled_append, hes, List.append_nil]

theorem counted_moves (hm : a.Moves es a') (h : Counted j a) : Counted (j ++ es) a' := by
  cases hm with
  | opened hp =>
    rw [Counted, hp] at h
    show a.processed = (handled (j ++ [.called .fetch])).length
    rw [handled_append, h.1, h.2]
    rfl
  | @passed t t' r hp hr =>
    show a.processed = (handled (j ++ _)).length
    rw [handled_append, Stage.handled_answered_start, List.append_nil, h.of_calling hp]
  | @settled t r o hp hr =>
    have hquiet : handled [.answered t.call r, .published a.state (.settle o)] = [] := rfl
    show a.processed + 1 = (handled (j ++ _)).length + 1
    rw [handled_append, hquiet, List.append_nil, h.of_calling hp]
  | ignored hp hq hx => exact h.rest hp rfl rfl rfl
  | edited hp hq hl hb => exact h.rest hp rfl rfl rfl
  | submitted hp hq hs => exact h.errand hp rfl rfl rfl
  | cleared hp hq hb => exact h.errand hp rfl rfl rfl
  | restarted hp hq hs => exact h.errand hp rfl rfl rfl
  | closed hp hq => exact h.stop hp rfl rfl rfl
  | ended hp hq hh => exact h.stop hp rfl rfl rfl

theorem counted {w : StoreBehaviour σ} {x : σ} {s : System σ} (h : Reachable w x s) :
    Counted s.journal s.actor :=
  invariant (P := fun _ ↦ Counted) ⟨rfl, rfl⟩ (fun _ _ h ↦ h) (fun h ↦ h) counted_moves h

theorem Reachable.processed_le {w : StoreBehaviour σ} {x : σ} {s : System σ}
    (h : Reachable w x s) : s.actor.processed ≤ s.finished.length + 1 := by
  have hcounted := counted h
  rw [finished]
  cases hp : s.actor.phase with
  | waiting =>
    rw [Counted, hp] at hcounted
    omega
  | calling t =>
    have hcount := hcounted.of_calling hp
    show _ ≤ (handled s.journal).dropLast.length + 1
    rw [List.length_dropLast]
    omega
  | idle => exact Nat.le_of_eq (hcounted.of_idle hp)
  | stopped =>
    rw [Counted, hp] at hcounted
    exact Nat.le_of_eq hcounted
  | killed =>
    rw [Counted, hp] at hcounted
    exact hcounted.elim

/-- No work is undone. -/
theorem Step.processed_le {w : StoreBehaviour σ} {s s' : System σ} (h : Step w s s') :
    s.actor.processed ≤ s'.actor.processed := by
  cases h with
  | send c hg hh => exact Nat.le_refl _
  | release hh => exact Nat.le_refl _
  | stir hy => exact Nat.le_refl _
  | start hp => exact (Actor.moves_begin hp).processed_le
  | call hp hb hy => exact Nat.le_refl _
  | answer hp hb hy => exact (Actor.moves_answer hp _).processed_le
  | take hr => exact (Actor.moves_of_take? hr).processed_le

/-- **The actions handled to their end are the first of those sent.** -/
theorem Reachable.finished_prefix {w : StoreBehaviour σ} {x : σ} {s : System σ}
    (h : Reachable w x s) : s.finished.map .handle <+: s.sent := by
  obtain ⟨rest, hsent, -⟩ := inOrder h
  have hfinished : s.finished <+: handled s.journal := by
    unfold finished
    split
    · exact List.dropLast_prefix _
    · exact List.prefix_rfl
  rw [hsent]
  exact (hfinished.map Command.handle).trans (List.prefix_append _ _)

end System

/-! ### Clients -/

/-- What a client has noted when it began to wait. -/
structure Inquiry where
  /-- The units of work given. -/
  target : Nat
  /-- The actions whose dispatches had returned, by their places among the commands sent. -/
  returned : List Nat
  /-- How many commands had been sent. -/
  sent : Nat

/-- What is noted counts the dispatches that had returned, no two of them of the same action, and
all of actions that had been sent. -/
structure Inquiry.IsSound (q : Inquiry) : Prop where
  target_eq : q.target = q.returned.length + 1
  nodup : q.returned.Nodup
  lt_sent : ∀ p ∈ q.returned, p < q.sent

/-- How many dispatches were between their two steps. -/
def Inquiry.underWay (q : Inquiry) : Nat := q.sent - q.returned.length

/-- What a client is doing. -/
inductive Client where
  /-- It has nothing under way. -/
  | free
  /-- It has sent an action, which has a place among the commands sent, and not counted it yet. -/
  | sending (place : Nat)
  /-- It waits for the work to be done. -/
  | waiting (q : Inquiry)

/-- An actor held by clients, with what is around it. -/
structure Shared (σ : Type) where
  system : System σ
  /-- Every client, by its number. -/
  clients : Nat → Client := fun _ ↦ .free
  /-- The units of work that the actor was given, as far as they have been counted. -/
  dispatched : Nat := 1
  /-- The units of work done, as far as they have been counted. -/
  processed : Nat := 0
  /-- The actions whose dispatches have returned, by their places, in the order of the returns. -/
  returned : List Nat := []

namespace Shared

variable {w : StoreBehaviour σ} {x : σ} {s : Shared σ}

/-- A client goes over to something else. -/
def turn (i : Nat) (c : Client) (s : Shared σ) : Shared σ :=
  { s with clients := Function.update s.clients i c }

/-- What a client notes that begins to wait. -/
def inquiry (s : Shared σ) : Inquiry := ⟨s.dispatched, s.returned, s.system.sent.length⟩

/-- **A small step of an actor and its clients.** -/
inductive Step (w : StoreBehaviour σ) (s : Shared σ) : Shared σ → Prop
  /-- Something happens that is no business of the clients. The actor counts what it has done before
  it does anything else. -/
  | work {y : System σ} (h : System.Unattended w s.system y)
      (hc : y.journal = s.system.journal ∨ s.processed = s.system.actor.processed) :
      Step w s { s with system := y }
  /-- The actor counts a unit of work that it has done. -/
  | process (h : s.processed < s.system.actor.processed) :
      Step w s { s with processed := s.processed + 1 }
  /-- A client sends an action, which is the first step of a dispatch. -/
  | send (i : Nat) (a : Action) (hi : s.clients i = .free) (hg : s.system.actor.isGone = false)
      (hh : s.system.actor.isHeld = true) :
      Step w s (turn i (.sending s.system.sent.length) { s with
        system.actor := s.system.actor.enqueue (.handle a)
        system.sent := s.system.sent ++ [.handle a] })
  /-- The client counts the action, and its dispatch returns. -/
  | count {i p : Nat} (hi : s.clients i = .sending p) :
      Step w s (turn i .free { s with
        dispatched := s.dispatched + 1, returned := s.returned ++ [p] })
  /-- A client begins to wait. -/
  | ask (i : Nat) (hi : s.clients i = .free) : Step w s (turn i (.waiting s.inquiry) s)
  /-- A client has waited long enough: the work done has come up to what it noted. -/
  | settle {i : Nat} {q : Inquiry} (hi : s.clients i = .waiting q) (hq : q.target ≤ s.processed) :
      Step w s (turn i .free s)

/-- Nothing has happened. -/
def initial (x : σ) : Shared σ := { system := .initial x }

/-- **What an actor and its clients can come to**, in any order of their steps. -/
def Reachable (w : StoreBehaviour σ) (x : σ) : Shared σ → Prop :=
  ReflTransGen (Step w) (initial x)

/-- Clients that share their hold on an actor do nothing to it that a single one could not do. -/
theorem Reachable.system (h : Reachable w x s) : System.Reachable w x s.system := by
  induction h with
  | refl => exact .refl
  | tail _ hstep ih =>
    cases hstep with
    | work h hc => exact ih.tail h.1
    | process h => exact ih
    | send i a hi hg hh => exact ih.tail (.send (.handle a) hg hh)
    | count hi => exact ih
    | ask i hi => exact ih
    | settle hi hq => exact ih

/-! ### The count of the clients -/

/-- **The count of the clients is right**: it counts the dispatches that have returned. Those under
way are of the other actions sent, no two of the same. -/
structure Tally (s : Shared σ) : Prop where
  processed_le : s.processed ≤ s.system.actor.processed
  isSound : s.inquiry.IsSound
  isSound_of_waiting {i : Nat} {q : Inquiry} (hi : s.clients i = .waiting q) : q.IsSound
  lt_of_sending {i p : Nat} (hi : s.clients i = .sending p) : p < s.system.sent.length
  notMem_of_sending {i p : Nat} (hi : s.clients i = .sending p) : p ∉ s.returned
  eq_of_sending {i j p : Nat} (hi : s.clients i = .sending p) (hj : s.clients j = .sending p) :
    i = j
  mem_or_sending {p : Nat} (hp : p < s.system.sent.length) :
    p ∈ s.returned ∨ ∃ i, s.clients i = .sending p

theorem clients_turn_of_ne {i j : Nat} {c : Client} (h : j ≠ i) :
    (turn i c s).clients j = s.clients j :=
  show Function.update s.clients i c j = _ from Function.update_of_ne h c s.clients

theorem clients_turn_self {i : Nat} {c : Client} : (turn i c s).clients i = c :=
  show Function.update s.clients i c i = c from Function.update_self i c s.clients

/-- A dispatch under way stays so if another client turns to something. -/
theorem sending_turn {i j p : Nat} {c : Client} (hj : s.clients j = .sending p)
    (hi : s.clients i ≠ .sending p) : (turn i c s).clients j = .sending p := by
  have hne : j ≠ i := fun heq ↦ hi (heq ▸ hj)
  exact (clients_turn_of_ne hne).trans hj

/-- A client does what it has turned to, and the others do what they did. -/
theorem clients_turn {i j : Nat} {c d : Client} (h : (turn i c s).clients j = d) :
    j = i ∧ c = d ∨ j ≠ i ∧ s.clients j = d := by
  obtain rfl | hne := eq_or_ne j i
  · exact .inl ⟨rfl, clients_turn_self.symm.trans h⟩
  · exact .inr ⟨hne, (clients_turn_of_ne hne).symm.trans h⟩

theorem tally_initial (x : σ) : Tally (initial x) where
  processed_le := Nat.le_refl 0
  isSound := ⟨rfl, List.nodup_nil, nofun⟩
  isSound_of_waiting := nofun
  lt_of_sending := nofun
  notMem_of_sending := nofun
  eq_of_sending := nofun
  mem_or_sending := nofun

/-- A client without a dispatch under way turns to something other than a dispatch. -/
theorem tally_turn (h : Tally s) {i : Nat} (hi : ∀ p, s.clients i ≠ .sending p) {c : Client}
    (hc : ∀ p, c ≠ .sending p) (hq : ∀ q, c = .waiting q → q.IsSound) : Tally (turn i c s) := by
  have hold {j p : Nat} (hj : (turn i c s).clients j = .sending p) : s.clients j = .sending p := by
    rcases clients_turn hj with ⟨-, hj⟩ | ⟨-, hj⟩
    · exact absurd hj (hc p)
    · exact hj
  exact
    { processed_le := h.processed_le
      isSound := h.isSound
      isSound_of_waiting := fun {_ q} hj ↦ by
        rcases clients_turn hj with ⟨-, hj⟩ | ⟨-, hj⟩
        · exact hq q hj
        · exact h.isSound_of_waiting hj
      lt_of_sending := fun hj ↦ h.lt_of_sending (hold hj)
      notMem_of_sending := fun hj ↦ h.notMem_of_sending (hold hj)
      eq_of_sending := fun hj hk ↦ h.eq_of_sending (hold hj) (hold hk)
      mem_or_sending := fun {p} hp ↦
        (h.mem_or_sending hp).imp_right fun ⟨j, hj⟩ ↦ ⟨j, sending_turn hj (hi p)⟩ }

/-- An action that is sent gets a place of its own. -/
theorem tally_send (h : Tally s) {i : Nat} (hi : s.clients i = .free) (a : Action) :
    Tally (turn i (.sending s.system.sent.length) { s with
      system.actor := s.system.actor.enqueue (.handle a)
      system.sent := s.system.sent ++ [.handle a] }) := by
  have hlength : (s.system.sent ++ [Command.handle a]).length = s.system.sent.length + 1 :=
    List.length_append
  exact
    { processed_le := h.processed_le
      isSound := ⟨h.isSound.target_eq, h.isSound.nodup, fun p hp ↦ by
        show p < (s.system.sent ++ [Command.handle a]).length
        rw [hlength]
        exact Nat.lt_succ_of_lt (h.isSound.lt_sent p hp)⟩
      isSound_of_waiting := fun hj ↦ by
        rcases clients_turn hj with ⟨-, hj⟩ | ⟨-, hj⟩
        · cases hj
        · exact h.isSound_of_waiting hj
      lt_of_sending := fun {j p} hj ↦ by
        show p < (s.system.sent ++ [Command.handle a]).length
        rw [hlength]
        rcases clients_turn hj with ⟨-, hj⟩ | ⟨-, hj⟩
        · cases hj
          exact Nat.lt_succ_self _
        · exact Nat.lt_succ_of_lt (h.lt_of_sending hj)
      notMem_of_sending := fun hj ↦ by
        rcases clients_turn hj with ⟨-, hj⟩ | ⟨-, hj⟩
        · cases hj
          exact fun hp ↦ Nat.lt_irrefl _ (h.isSound.lt_sent _ hp)
        · exact h.notMem_of_sending hj
      -- Every action that was sent before has a smaller place.
      eq_of_sending := fun hj hk ↦ by
        rcases clients_turn hj with ⟨hji, hj⟩ | ⟨-, hj⟩
        · rcases clients_turn hk with ⟨hki, -⟩ | ⟨-, hk⟩
          · exact hji.trans hki.symm
          · cases hj
            exact absurd (h.lt_of_sending hk) (Nat.lt_irrefl _)
        · rcases clients_turn hk with ⟨-, hk⟩ | ⟨-, hk⟩
          · cases hk
            exact absurd (h.lt_of_sending hj) (Nat.lt_irrefl _)
          · exact h.eq_of_sending hj hk
      mem_or_sending := fun {p} hp ↦ by
        have hp : p < (s.system.sent ++ [Command.handle a]).length := hp
        rw [hlength] at hp
        obtain hp | rfl := Nat.lt_succ_iff_lt_or_eq.1 hp
        · have hnot : s.clients i ≠ .sending p := hi ▸ nofun
          exact (h.mem_or_sending hp).imp_right fun ⟨j, hj⟩ ↦ ⟨j, sending_turn hj hnot⟩
        · exact .inr ⟨i, clients_turn_self⟩ }

/-- A dispatch returns once its action is counted. -/
theorem tally_count (h : Tally s) {i p : Nat} (hi : s.clients i = .sending p) :
    Tally (turn i .free { s with
      dispatched := s.dispatched + 1, returned := s.returned ++ [p] }) := by
  have hother {j r : Nat} (hj : (turn i .free s).clients j = .sending r) :
      j ≠ i ∧ s.clients j = .sending r := by
    rcases clients_turn hj with ⟨-, hj⟩ | hj
    · cases hj
    · exact hj
  have hcount : s.dispatched + 1 = (s.returned ++ [p]).length + 1 := by
    have htarget : s.dispatched = s.returned.length + 1 := h.isSound.target_eq
    rw [htarget, List.length_append, List.length_singleton]
  have hnodup : (s.returned ++ [p]).Nodup :=
    List.nodup_append.2 ⟨h.isSound.nodup, List.nodup_singleton p, fun r hr r' hr' heq ↦
      h.notMem_of_sending hi (List.mem_singleton.1 hr' ▸ heq ▸ hr)⟩
  exact
    { processed_le := h.processed_le
      isSound := ⟨hcount, hnodup, fun r hr ↦ by
        rcases List.mem_append.1 hr with hr | hr
        · exact h.isSound.lt_sent r hr
        · rw [List.mem_singleton.1 hr]
          exact h.lt_of_sending hi⟩
      isSound_of_waiting := fun hj ↦ by
        rcases clients_turn hj with ⟨-, hj⟩ | ⟨-, hj⟩
        · cases hj
        · exact h.isSound_of_waiting hj
      lt_of_sending := fun hj ↦ h.lt_of_sending (hother hj).2
      notMem_of_sending := fun hj hr ↦ by
        obtain ⟨hne, hj⟩ := hother hj
        rcases List.mem_append.1 hr with hr | hr
        · exact h.notMem_of_sending hj hr
        · -- No other client is about to count the same action.
          rw [List.mem_singleton.1 hr] at hj
          exact hne (h.eq_of_sending hj hi)
      eq_of_sending := fun hj hk ↦ h.eq_of_sending (hother hj).2 (hother hk).2
      mem_or_sending := fun {r} hr ↦ by
        rcases h.mem_or_sending hr with hr | ⟨j, hj⟩
        · exact .inl (List.mem_append_left [p] hr)
        · obtain rfl | hne := eq_or_ne r p
          · exact .inl (List.mem_append_right s.returned List.mem_cons_self)
          · have hnot : s.clients i ≠ .sending r := fun heq ↦
              hne (Client.sending.inj (heq.symm.trans hi))
            exact .inr ⟨j, sending_turn hj hnot⟩ }

theorem tally_step {s' : Shared σ} (hstep : Step w s s') (h : Tally s) : Tally s' := by
  cases hstep with
  | @work y hy hc =>
    refine ⟨Nat.le_trans h.processed_le hy.1.processed_le, ?_, h.isSound_of_waiting, ?_,
      h.notMem_of_sending, h.eq_of_sending, ?_⟩
    · rw [inquiry, hy.2]
      exact h.isSound
    · rw [hy.2]
      exact h.lt_of_sending
    · rw [hy.2]
      exact h.mem_or_sending
  | process hlt =>
    exact ⟨hlt, h.isSound, h.isSound_of_waiting, h.lt_of_sending, h.notMem_of_sending,
      h.eq_of_sending, h.mem_or_sending⟩
  | send i a hi hg hh => exact tally_send h hi a
  | count hi => exact tally_count h hi
  | ask i hi =>
    refine tally_turn h (hi ▸ nofun) nofun fun q hq ↦ ?_
    cases hq
    exact h.isSound
  | settle hi hq => exact tally_turn h (hi ▸ nofun) nofun nofun

theorem tally (h : Reachable w x s) : Tally s := by
  induction h with
  | refl => exact tally_initial x
  | tail _ hstep ih => exact tally_step hstep ih

/-- **No dispatch is under way** if and only if no client is between the two steps of one. -/
theorem Reachable.underWay_eq_zero_iff (h : Reachable w x s) :
    s.inquiry.underWay = 0 ↔ ∀ i p, s.clients i ≠ .sending p := by
  have htally := tally h
  have hrange : s.returned ⊆ List.range s.system.sent.length := fun p hp ↦
    List.mem_range.2 (htally.isSound.lt_sent p hp)
  constructor
  · intro hzero i p hi
    have hzero : s.system.sent.length - s.returned.length = 0 := hzero
    have hnodup : (p :: s.returned).Nodup :=
      List.nodup_cons.2 ⟨htally.notMem_of_sending hi, htally.isSound.nodup⟩
    have hsub : p :: s.returned ⊆ List.range s.system.sent.length :=
      List.cons_subset.2 ⟨List.mem_range.2 (htally.lt_of_sending hi), hrange⟩
    have hlength := (hnodup.subperm hsub).length_le
    rw [List.length_cons, List.length_range] at hlength
    omega
  · intro hnone
    have hsub : List.range s.system.sent.length ⊆ s.returned := fun p hp ↦ by
      obtain hp | ⟨i, hi⟩ := htally.mem_or_sending (List.mem_range.1 hp)
      · exact hp
      · exact absurd hi (hnone i p)
    have hlength := (List.nodup_range.subperm hsub).length_le
    rw [List.length_range] at hlength
    exact Nat.sub_eq_zero_of_le hlength

/-! ### What a wait is worth -/

/-- Of distinct numbers below a bound, few are as large as another number. -/
theorem length_filter_le {l : List Nat} (hl : l.Nodup) {m : Nat} (hm : ∀ p ∈ l, p < m) (n : Nat) :
    (l.filter (n ≤ ·)).length ≤ m - n := by
  have hsub : l.filter (n ≤ ·) ⊆ List.range' n (m - n) := fun p hp ↦ by
    obtain ⟨hmem, hle⟩ := List.mem_filter.1 hp
    have hlt := hm p hmem
    have hle' := of_decide_eq_true hle
    rw [List.mem_range'_1]
    omega
  have hlength := ((hl.filter _).subperm hsub).length_le
  rwa [List.length_range'] at hlength

/-- **What a wait is worth.** Let a client have waited long enough, for an actor that others send
actions to as well, in whatever order all their steps were taken. If `n` dispatches had returned
when it began to wait, then

* the first `n` actions that were sent have been handled;
* of the actions of these dispatches no more have not been handled than there were dispatches under
  way when it began to wait;
* if there were none, all of them have been handled.

What has been handled are the first of the actions sent. -/
theorem settled_handles_first (h : Reachable w x s) {i : Nat} {q : Inquiry}
    (hi : s.clients i = .waiting q) (hq : q.target ≤ s.processed) :
    s.system.finished.map .handle <+: s.system.sent ∧
    (∀ p < q.returned.length, s.system.HasHandled p) ∧
    (q.returned.filter fun p ↦ ¬ s.system.HasHandled p).length ≤ q.underWay ∧
    (q.underWay = 0 → ∀ p ∈ q.returned, s.system.HasHandled p) := by
  have htally := tally h
  have hsound := htally.isSound_of_waiting hi
  have hfirst : q.returned.length ≤ s.system.finished.length := by
    have hdone := h.system.processed_le
    have hcounted := htally.processed_le
    have htarget := hsound.target_eq
    omega
  refine ⟨h.system.finished_prefix, fun p hp ↦ Nat.lt_of_lt_of_le hp hfirst, ?_,
    fun hnone p hp ↦ ?_⟩
  · have hlate := length_filter_le hsound.nodup hsound.lt_sent s.system.finished.length
    have heq : (q.returned.filter fun p ↦ ¬ s.system.HasHandled p) =
        q.returned.filter (s.system.finished.length ≤ ·) :=
      List.filter_congr fun p _ ↦ by simp [System.HasHandled]
    rw [heq, Inquiry.underWay]
    omega
  · have hlt := hsound.lt_sent p hp
    rw [Inquiry.underWay] at hnone
    rw [System.HasHandled]
    omega

/-- **An action can be overtaken by a count.** One client sends an edit and does not come to count
it. Another one sends an edit and counts it, and begins to wait. The first fetch and the edit of the
first client are two units of work, as many as the other client has noted, so it has waited long
enough; but its own edit is still in the queue. -/
theorem exists_overtaken :
    ∃ s : Shared Memory, Reachable (Memory.timed none).behaviour { stored := some ∅ } s ∧
      s.clients 1 = .waiting ⟨2, [1], 2⟩ ∧ s.processed = 2 ∧
      s.system.sent = [.handle (.change ⟨.gc, true, .ofList [7]⟩),
        .handle (.change ⟨.gc, true, .ofList [8]⟩)] ∧
      s.system.finished = [.change ⟨.gc, true, .ofList [7]⟩] ∧
      s.system.actor.queue = [.handle (.change ⟨.gc, true, .ofList [8]⟩)] ∧
      s.system.actor.state = .diverged { gc := some (.ofList [7]) } ∅ := by
  have h₀ : Reachable (Memory.timed none).behaviour { stored := some ∅ } (initial _) := .refl
  have h₁ := h₀.tail (.send 0 (.change ⟨.gc, true, .ofList [7]⟩) rfl rfl rfl)
  have h₂ := h₁.tail (.send 1 (.change ⟨.gc, true, .ofList [8]⟩) rfl rfl rfl)
  have h₃ := (h₂.tail (.count (i := 1) rfl)).tail (.ask 1 rfl)
  have h₄ := h₃.tail (.work ⟨.start rfl, rfl⟩ (.inr rfl))
  have h₅ := h₄.tail (.work ⟨.call rfl rfl rfl, rfl⟩ (.inr rfl))
  have h₆ := h₅.tail (.work ⟨.answer rfl rfl rfl, rfl⟩ (.inr rfl))
  have h₇ := h₆.tail (.process (by decide))
  have h₈ := h₇.tail (.work ⟨.take rfl, rfl⟩ (.inr rfl))
  have h₉ := h₈.tail (.process (by decide))
  exact ⟨_, h₉, rfl, rfl, rfl, rfl, rfl, rfl⟩

/-- **A client that waits can be told too early** that its own action has been handled. -/
theorem settled_before_handled :
    ¬ ∀ s : Shared Memory, Reachable (Memory.timed none).behaviour { stored := some ∅ } s →
      ∀ i q, s.clients i = .waiting q → q.target ≤ s.processed →
        ∀ p ∈ q.returned, s.system.HasHandled p := by
  intro hall
  obtain ⟨s, h, hi, hprocessed, -, hfinished, -, -⟩ := exists_overtaken
  have hhandled : s.system.HasHandled 1 :=
    hall s h 1 _ hi (Nat.le_of_eq hprocessed.symm) 1 List.mem_cons_self
  rw [System.HasHandled, hfinished] at hhandled
  exact Nat.lt_irrefl 1 hhandled

/-- One dispatch is under way when a client begins to wait. The first action has been handled when
it goes on, and one action is missed, which is its own. -/
theorem settled_handles_first_overtaken :
    ∃ s : Shared Memory, Reachable (Memory.timed none).behaviour { stored := some ∅ } s ∧
      s.clients 1 = .waiting ⟨2, [1], 2⟩ ∧ s.processed = 2 ∧ s.system.HasHandled 0 ∧
      ([1].filter fun p ↦ ¬ s.system.HasHandled p).length = 1 := by
  obtain ⟨s, h, hi, hprocessed, -, hfinished, -, -⟩ := exists_overtaken
  obtain ⟨-, hfirst, hlate, -⟩ := settled_handles_first h hi (Nat.le_of_eq hprocessed.symm)
  have hmissed : ¬ s.system.HasHandled 1 := by
    rw [System.HasHandled, hfinished]
    exact Nat.lt_irrefl 1
  refine ⟨s, h, hi, hprocessed, hfirst 0 Nat.zero_lt_one, Nat.le_antisymm hlate ?_⟩
  simp [hmissed]

end Shared

/-! ### The client of a session -/

namespace Session

/-- A session as its client and one of its actors see it while the client does nothing. The client
has the number nought. -/
def shared (i dispatched : Nat) (cs : List Command) (returned : List Nat) (j : List Event)
    (s : Session σ) : Shared σ where
  system := s.view i cs j
  dispatched := dispatched
  processed := (s.worker i).actor.processed
  returned := returned

/-- An action is in the queue of an actor, and has been counted. -/
def deliver (h : Handle) (a : Action) (s : Session σ) : Session σ :=
  ({ s.record [.dispatched a] with
    handle := some { h with dispatched := h.dispatched + 1 } }).modifyActor h.worker
      (Actor.enqueue (.handle a))

theorem exists_wake_eq (f : Party → Schedule → Schedule) (i : Nat) (s : Session σ) :
    ∃ schedule, s.wake f i = { s with schedule } := by
  rw [wake]
  split <;> exact ⟨_, rfl⟩

variable {s : Session σ} {h : Handle}

theorem dispatch_eq (hh : s.handle = some h) (hgone : (s.worker h.worker).actor.isGone = false)
    (a : Action) :
    s.dispatch a = (.ok (), (s.deliver h a).wake Schedule.invite h.worker) := by
  have hrecord : (s.record [.dispatched a]).worker h.worker = s.worker h.worker := rfl
  rw [dispatch, hh]
  dsimp only
  rw [hrecord, if_neg (by rw [hgone]; exact Bool.false_ne_true)]
  rfl

theorem actor_deliver (hi : h.worker < s.workers.length) (a : Action) :
    ((s.deliver h a).worker h.worker).actor =
      (s.worker h.worker).actor.enqueue (.handle a) := by
  simp [deliver, worker, modifyActor, record, hi]

/-- What others see of a delivery. -/
theorem shared_deliver (hi : h.worker < s.workers.length) (a : Action) (d : Nat)
    (cs : List Command) (returned : List Nat) (j : List Event) :
    (s.deliver h a).shared h.worker d cs returned j =
      { system := { s.view h.worker cs j with
          actor := (s.worker h.worker).actor.enqueue (.handle a) }
        dispatched := d
        processed := (s.worker h.worker).actor.processed
        returned := returned } := by
  rw [shared, view, actor_deliver hi]
  rfl

/-- **The client of a session takes both steps of a dispatch at once**, so that none is under way
when it begins to wait. -/
theorem dispatch_steps {w : StoreBehaviour σ} (hh : s.handle = some h)
    (hi : h.worker < s.workers.length) (hheld : (s.worker h.worker).actor.isHeld = true)
    (hgone : (s.worker h.worker).actor.isGone = false) (a : Action) (cs : List Command)
    (returned : List Nat) (j : List Event) :
    ∃ s', s.dispatch a = (.ok (), s') ∧
      s'.handle = some { h with dispatched := h.dispatched + 1 } ∧
      ReflTransGen (Shared.Step w) (s.shared h.worker h.dispatched cs returned j)
        (s'.shared h.worker (h.dispatched + 1) (cs ++ [.handle a]) (returned ++ [cs.length]) j) := by
  have hdispatch := dispatch_eq hh hgone a
  obtain ⟨schedule, hwake⟩ := exists_wake_eq Schedule.invite h.worker (s.deliver h a)
  rw [hwake] at hdispatch
  refine ⟨_, hdispatch, rfl, ?_⟩
  have hfree : (fun _ ↦ Client.free) =
      Function.update (Function.update (fun _ ↦ .free) 0 (.sending cs.length)) 0 .free := by
    rw [Function.update_idem]
    exact (Function.update_eq_self 0 _).symm
  -- The schedule is no part of what is seen.
  show ReflTransGen _ _ ((s.deliver h a).shared h.worker (h.dispatched + 1) (cs ++ [.handle a])
    (returned ++ [cs.length]) j)
  rw [shared_deliver hi, hfree]
  exact .tail (.single (.send 0 a rfl hgone hheld)) (.count Shared.clients_turn_self)

end Session

end TraceReconciler
