import TraceReconciler.Reconcile.Run
import TraceReconciler.Proofs.Reconcile.Collapse

/-!
# Laws of the plain run

The plain run handles one action after the other, each to its end, over any remote in any monad.
What it does with one action is read off the transition (`State.handle_of_eq_next` and its
neighbours), and what it does with a list of actions splits where the list does
(`State.reconcile_concat`).

An errand can be cut at its call: `Stage.conclude` is what is left of it once the call of the stage
has been answered, and running it from a stage is calling and concluding (`Stage.run_eq_conclude`).
-/

namespace TraceReconciler

variable {m : Type → Type} [Monad m] (remote : Remote m)

namespace Stage

/-- What is left of an errand once the call of a stage has been answered. -/
def conclude (t : Stage) (r : t.call.Answer) : m (Outcome × List Event) :=
  match t.resume r with
  | .inl t' => t'.run remote
  | .inr o => pure (o, [])

theorem conclude_of_inl {t t' : Stage} {r : t.call.Answer} (h : t.resume r = .inl t') :
    t.conclude remote r = t'.run remote := by
  rw [conclude, h]

theorem conclude_of_inr {t : Stage} {r : t.call.Answer} {o : Outcome} (h : t.resume r = .inr o) :
    t.conclude remote r = pure (o, []) := by
  rw [conclude, h]

/-- **Running an errand is calling and concluding.** -/
theorem run_eq_conclude [LawfulMonad m] (t : Stage) :
    t.run remote = (do
      let r ← remote t.call
      let (o, es) ← t.conclude remote r
      pure (o, t.start ++ .answered t.call r :: es)) := by
  rw [run_eq]
  congr 1
  funext r
  cases h : t.resume r with
  | inl t' =>
    rw [conclude_of_inl remote h]
    simp
  | inr o =>
    rw [conclude_of_inr remote h]
    simp

section

variable {σ : Type} {remote : Remote (StateM σ)} {t : Stage} {x y : σ} {r : t.call.Answer}

theorem run_apply (h : remote t.call x = (r, y)) :
    t.run remote x = (((t.conclude remote r y).1.1,
      t.start ++ .answered t.call r :: (t.conclude remote r y).1.2),
      (t.conclude remote r y).2) := by
  rw [run_eq_conclude]
  show (((t.conclude remote (remote t.call x).1 (remote t.call x).2).1.1,
    t.start ++ .answered t.call (remote t.call x).1 ::
      (t.conclude remote (remote t.call x).1 (remote t.call x).2).1.2),
    (t.conclude remote (remote t.call x).1 (remote t.call x).2).2) = _
  rw [h]

/-- An errand goes on after an answer that leads to another stage. -/
theorem run_of_inl {t' : Stage} (h : remote t.call x = (r, y)) (hr : t.resume r = .inl t') :
    t.run remote x =
      (((t'.run remote y).1.1, t.start ++ .answered t.call r :: (t'.run remote y).1.2),
        (t'.run remote y).2) := by
  rw [run_apply h, conclude_of_inl remote hr]

/-- An errand ends with an answer that leads to no other stage. -/
theorem run_of_inr {o : Outcome} (h : remote t.call x = (r, y)) (hr : t.resume r = .inr o) :
    t.run remote x = ((o, t.start ++ [.answered t.call r]), y) := by
  rw [run_apply h, conclude_of_inr remote hr]
  rfl

end

end Stage

namespace State

/-! ### One action -/

theorem handle_of_eq_ignored {s : State} {a : Action} (h : s.transition a = {}) :
    s.handle remote a = pure (s, [.taken a, .ignored a s]) := by
  rw [handle, h]
  rfl

theorem handle_of_eq_next {s n : State} {a : Action} (h : s.transition a = { next := some n }) :
    s.handle remote a = pure (n, [.taken a, .published s n]) := by
  rw [handle, h]
  rfl

theorem handle_of_eq_errand {s : State} {a : Action} {e : Errand}
    (h : s.transition a = { errand := some e }) :
    s.handle remote a = (do
      let (s, es) ← s.perform remote e
      pure (s, .taken a :: es)) := by
  rw [handle, h]
  rfl

theorem handle_of_eq_next_errand {s n : State} {a : Action} {e : Errand}
    (h : s.transition a = { next := some n, errand := some e }) :
    s.handle remote a = (do
      let (s', es) ← n.perform remote e
      pure (s', .taken a :: .published s n :: es)) := by
  rw [handle, h]
  rfl

/-! ### Lists of actions -/

theorem handleAll_append [LawfulMonad m] (s : State) (as bs : List Action) :
    s.handleAll remote (as ++ bs) = (do
      let (s, first) ← s.handleAll remote as
      let (s, others) ← s.handleAll remote bs
      pure (s, first ++ others)) := by
  induction as generalizing s with
  | nil => simp [handleAll]
  | cons a as ih => simp [handleAll, ih]

theorem reconcile_nil [LawfulMonad m] : reconcile remote [] = establish remote := by
  simp [reconcile, handleAll]

/-- **A run over one more action** is the run before, and then the action. -/
theorem reconcile_concat [LawfulMonad m] (as : List Action) (a : Action) :
    reconcile remote (as ++ [a]) = (do
      let (s, first) ← reconcile remote as
      let (s, others) ← s.handle remote a
      pure (s, first ++ others)) := by
  simp [reconcile, handleAll_append, handleAll]

/-! ### Over a state -/

section

variable {σ : Type} {remote : Remote (StateM σ)} {s s₁ s₂ : State} {es es' : List Event} {x y z : σ}

theorem perform_apply {e : Errand} {o : Stage.Outcome} (h : e.stage.run remote x = ((o, es), y)) :
    s.perform remote e x = ((settle o, es ++ [.published s (settle o)]), y) := by
  show (let ((o, es), y) := e.stage.run remote x
    ((settle o, es ++ [Event.published s (settle o)]), y)) = _
  rw [h]

/-- What is done about an action that takes an errand and nothing else. -/
theorem handle_apply {a : Action} {e : Errand} {o : Stage.Outcome}
    (ha : s.transition a = { errand := some e }) (h : e.stage.run remote x = ((o, es), y)) :
    s.handle remote a x = ((settle o, .taken a :: (es ++ [.published s (settle o)])), y) := by
  rw [handle_of_eq_errand remote ha]
  show (let ((s', es), y) := s.perform remote e x
    ((s', Event.taken a :: es), y)) = _
  rw [perform_apply h]

theorem handleAll_nil_apply : s.handleAll remote [] x = ((s, []), x) := rfl

theorem handleAll_cons_apply {a : Action} {as : List Action}
    (h : s.handle remote a x = ((s₁, es), y))
    (h' : s₁.handleAll remote as y = ((s₂, es'), z)) :
    s.handleAll remote (a :: as) x = ((s₂, es ++ es'), z) := by
  show (let ((s₁, first), y) := s.handle remote a x
    let ((s₂, others), z) := s₁.handleAll remote as y
    ((s₂, first ++ others), z)) = _
  rw [h]
  dsimp only
  rw [h']

theorem reconcile_apply {as : List Action} (h : establish remote x = ((s, es), y))
    (h' : s.handleAll remote as y = ((s₁, es'), z)) :
    reconcile remote as x = ((s₁, es ++ es'), z) := by
  show (let ((s, first), y) := establish remote x
    let ((s₁, others), z) := s.handleAll remote as y
    ((s₁, first ++ others), z)) = _
  rw [h]
  dsimp only
  rw [h']

end

end State

end TraceReconciler
