import TraceReconciler.Reconcile.Event

/-!
# Stages of an errand

An errand takes more than one call on the remote store, and every call may fail. A **stage** is
where an errand stands: the call to be made now (`Stage.call`), and what its answer leads to
(`Stage.resume`), which is either another stage or the outcome of the errand. So an errand never
looks at the store itself, and whoever makes the call for it may do other things before the answer
is there.

```text
opening    --(configuration)--> done       submitting --(written)--> confirming
opening    --(not found)------> seeding    confirming --(any answer)--> done
seeding    --(written)--------> confirming        any --(failure)--> done
```
-/

namespace TraceReconciler

/-- Where an errand stands. -/
inductive Stage where
  /-- Fetch; a store that was never written is going to be seeded. -/
  | opening
  /-- Write the empty configuration to a store that was never written. -/
  | seeding
  /-- Write a configuration. -/
  | submitting (c : Configuration)
  /-- Fetch what the store has made of a configuration that was written. -/
  | confirming
deriving DecidableEq

/-- The stage that an errand begins with. -/
def Errand.stage : Errand → Stage
  | .establish => .opening
  | .submit c => .submitting c

namespace Stage

/-- The call to be made. -/
abbrev call : Stage → RemoteCall
  | .opening => .fetch
  | .seeding => .push ∅
  | .submitting c => .push c
  | .confirming => .fetch

/-- The outcome of an errand. -/
abbrev Outcome : Type := Except RemoteError Configuration

/-- **What the answer to the call leads to**: another stage, or the outcome. -/
def resume : (t : Stage) → t.call.Answer → Stage ⊕ Outcome
  | .opening, .error .notFound => .inl .seeding
  | .opening, a => .inr a
  | .seeding, .ok _ => .inl .confirming
  | .seeding, .error e => .inr (.error e)
  | .submitting _, .ok _ => .inl .confirming
  | .submitting _, .error e => .inr (.error e)
  | .confirming, a => .inr a

/-- The greatest number of calls that are still to be made. -/
def rank : Stage → Nat
  | .opening => 3
  | .seeding => 2
  | .submitting _ => 2
  | .confirming => 1

/-- Each answer brings an errand closer to its end. -/
theorem rank_lt_of_resume {t t' : Stage} {a : t.call.Answer} (h : t.resume a = .inl t') :
    t'.rank < t.rank := by
  cases t <;> rcases a with (_ | _) | _ <;> simp [resume] at h <;> subst h <;> simp [rank]

/-- What happens when a stage is entered. -/
def start (t : Stage) : List Event :=
  match t with
  | .seeding => [.seeding, .called t.call]
  | _ => [.called t.call]

theorem rank_pos (t : Stage) : 0 < t.rank := by cases t <;> simp [rank]

section

variable {m : Type → Type} [Monad m] (remote : Remote m)

/-- Runs an errand from a stage from which it takes a number of calls at most. -/
def runWithin : (n : Nat) → (t : Stage) → t.rank ≤ n → m (Outcome × List Event)
  | 0, t, h => absurd t.rank_pos (Nat.not_lt.2 h)
  | n + 1, t, h => do
    let a ← remote t.call
    let here := t.start ++ [.answered t.call a]
    match ht : t.resume a with
    | .inl t' =>
      let (o, events) ← runWithin n t' (Nat.le_of_lt_succ
        (Nat.lt_of_lt_of_le (rank_lt_of_resume ht) h))
      pure (o, here ++ events)
    | .inr o => pure (o, here)

/-- **Runs an errand to its end**, with every call made by a remote: the outcome, and what
happened. -/
def run (t : Stage) : m (Outcome × List Event) := runWithin remote t.rank t (Nat.le_refl _)

theorem runWithin_eq (n k : Nat) (t : Stage) (hn : t.rank ≤ n) (hk : t.rank ≤ k) :
    runWithin remote n t hn = runWithin remote k t hk := by
  induction n generalizing k t with
  | zero => exact absurd t.rank_pos (Nat.not_lt.2 hn)
  | succ n ih =>
    cases k with
    | zero => exact absurd t.rank_pos (Nat.not_lt.2 hk)
    | succ k =>
      simp only [runWithin]
      congr 1
      funext a
      split
      · next t' ht =>
        rw [ih k t' _ (Nat.le_of_lt_succ (Nat.lt_of_lt_of_le (rank_lt_of_resume ht) hk))]
      · rfl

/-- **An errand goes on as its stages say**: a call is made, and its answer is the end or leads to
another stage, from which it is run to its end. -/
theorem run_eq (t : Stage) :
    t.run remote = (do
      let a ← remote t.call
      let here := t.start ++ [.answered t.call a]
      match t.resume a with
      | .inl t' =>
        let (o, events) ← t'.run remote
        pure (o, here ++ events)
      | .inr o => pure (o, here)) := by
  have hr : t.rank ≤ (t.rank - 1) + 1 := by have := t.rank_pos; omega
  rw [run, runWithin_eq remote _ _ t (Nat.le_refl _) hr]
  simp only [runWithin]
  congr 1
  funext a
  split
  · next t' ht =>
    have hw := Nat.le_of_lt_succ (Nat.lt_of_lt_of_le (rank_lt_of_resume ht) hr)
    have key : runWithin remote (t.rank - 1) t' hw = t'.run remote :=
      runWithin_eq remote _ _ t' hw (Nat.le_refl _)
    simp only [ht, key]
  · next o ho => simp only [ho]

end

end Stage

end TraceReconciler
