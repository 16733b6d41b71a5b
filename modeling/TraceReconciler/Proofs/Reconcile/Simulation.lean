import TraceReconciler.Proofs.Reconcile.Sequence

/-!
# One store in place of another

Two stores of different kinds can hold the same: a relation says when they do. If the one answers
every call as the other does, and they hold the same again after that (`Remote.Alike`), then nobody
who only makes calls can tell them apart: errands, actions and whole runs come to the same states
and the same events, and leave the stores holding the same (`State.reconcile_follows`).

Some answers may be ruled out, such as the failures that only one of the stores knows. Then the
stores need to agree on the others only, and so do the runs in which no event is ruled out. What is
ruled out is a property of single events, so that a run in which nothing of the kind happens is made
of parts in which nothing of the kind happens.
-/

namespace TraceReconciler

variable {σ τ α β : Type}

/-- **Two stores answer alike** where they hold the same, unless the answer is ruled out, and then
they hold the same again. -/
def Remote.Alike (R : σ → τ → Prop) (ok : Event → Prop) (remote : Remote (StateM σ))
    (other : Remote (StateM τ)) : Prop :=
  ∀ k x y, R x y → ok (.answered k (remote k x).1) →
    (other k y).1 = (remote k x).1 ∧ R (remote k x).2 (other k y).2

/-- **One computation follows another**: from stores that hold the same, both come to the same, with
the same events, unless one of these is ruled out. -/
def Follows (R : σ → τ → Prop) (ok : Event → Prop) (f : StateM σ (α × List Event))
    (g : StateM τ (α × List Event)) : Prop :=
  ∀ x y, R x y → (∀ e ∈ (f x).1.2, ok e) → (g y).1 = (f x).1 ∧ R (f x).2 (g y).2

namespace Follows

variable {R : σ → τ → Prop} {ok : Event → Prop}

theorem pure (a : α × List Event) :
    Follows R ok (Pure.pure a : StateM σ (α × List Event)) (Pure.pure a) :=
  fun _ _ hxy _ ↦ ⟨rfl, hxy⟩

/-- One after the other, with what has happened in this order. -/
theorem bind {f : StateM σ (α × List Event)} {g : StateM τ (α × List Event)}
    {f' : α → StateM σ (β × List Event)} {g' : α → StateM τ (β × List Event)}
    (h : Follows R ok f g) (h' : ∀ a, Follows R ok (f' a) (g' a)) :
    Follows R ok
      (do
        let (a, first) ← f
        let (b, others) ← f' a
        Pure.pure (b, first ++ others))
      (do
        let (a, first) ← g
        let (b, others) ← g' a
        Pure.pure (b, first ++ others)) := by
  intro x y hxy hok
  have hok' : ∀ e ∈ (f x).1.2 ++ (f' (f x).1.1 (f x).2).1.2, ok e := hok
  obtain ⟨heq, hR⟩ := h x y hxy fun e he ↦ hok' e (List.mem_append_left _ he)
  obtain ⟨heq', hR'⟩ := h' (f x).1.1 (f x).2 (g y).2 hR fun e he ↦
    hok' e (List.mem_append_right _ he)
  show ((g' (g y).1.1 (g y).2).1.1, (g y).1.2 ++ (g' (g y).1.1 (g y).2).1.2) =
      ((f' (f x).1.1 (f x).2).1.1, (f x).1.2 ++ (f' (f x).1.1 (f x).2).1.2) ∧
    R (f' (f x).1.1 (f x).2).2 (g' (g y).1.1 (g y).2).2
  rw [heq, heq']
  exact ⟨rfl, hR'⟩

end Follows

variable {R : σ → τ → Prop} {ok : Event → Prop} {remote : Remote (StateM σ)}
  {other : Remote (StateM τ)}

/-- **Errands follow each other**, by induction on the calls that are still to be made. -/
theorem Stage.run_follows (h : Remote.Alike R ok remote other) (t : Stage) :
    Follows R ok (t.run remote) (t.run other) := by
  induction hn : t.rank using Nat.strongRecOn generalizing t with
  | _ n ih =>
    subst hn
    intro x y hxy hok
    obtain ⟨r, x₁, hx⟩ : ∃ r x₁, remote t.call x = (r, x₁) := ⟨_, _, rfl⟩
    have hcall := h t.call x y hxy
    rw [hx] at hcall
    cases hr : t.resume r with
    | inl t' =>
      rw [run_of_inl hx hr] at hok ⊢
      obtain ⟨heq, hR⟩ := hcall (hok _ (by simp))
      have hy : other t.call y = (r, (other t.call y).2) := Prod.ext heq rfl
      obtain ⟨heq', hR'⟩ := ih t'.rank (rank_lt_of_resume hr) t' rfl x₁ _ hR fun e he ↦
        hok e (List.mem_append_right _ (List.mem_cons_of_mem _ he))
      rw [run_of_inl hy hr, heq']
      exact ⟨rfl, hR'⟩
    | inr o =>
      rw [run_of_inr hx hr] at hok ⊢
      obtain ⟨heq, hR⟩ := hcall (hok _ (by simp))
      have hy : other t.call y = (r, (other t.call y).2) := Prod.ext heq rfl
      rw [run_of_inr hy hr]
      exact ⟨rfl, hR⟩

namespace State

theorem perform_follows (h : Remote.Alike R ok remote other) (s : State) (e : Errand) :
    Follows R ok (s.perform remote e) (s.perform other e) :=
  (Stage.run_follows h e.stage).bind fun o ↦ .pure (settle o, [.published s (settle o)])

/-- **What is done about an action follows**, whether or not it takes an errand. -/
theorem handle_follows (h : Remote.Alike R ok remote other) (s : State) (a : Action) :
    Follows R ok (s.handle remote a) (s.handle other a) := by
  have hreaction := s.reaction a
  generalize ht : s.transition a = t at hreaction
  cases hreaction with
  | ignored =>
    rw [handle_of_eq_ignored _ ht, handle_of_eq_ignored _ ht]
    exact .pure _
  | edited hl hb =>
    rw [handle_of_eq_next _ ht, handle_of_eq_next _ ht]
    exact .pure _
  | @submitted l b =>
    rw [handle_of_eq_errand _ ht, handle_of_eq_errand _ ht]
    exact (Follows.pure ((), [.taken .synchronize])).bind fun _ ↦
      perform_follows h (.diverged l b) (.submit l)
  | cleared hb =>
    rw [handle_of_eq_errand _ ht, handle_of_eq_errand _ ht]
    exact (Follows.pure ((), [.taken .reset])).bind fun _ ↦ perform_follows h s (.submit ∅)
  | @restarted e =>
    rw [handle_of_eq_next_errand _ ht, handle_of_eq_next_errand _ ht]
    exact (Follows.pure ((), [.taken .retry, .published (.error e) .uninitialized])).bind fun _ ↦
      perform_follows h .uninitialized .establish

theorem handleAll_follows (h : Remote.Alike R ok remote other) (s : State) (as : List Action) :
    Follows R ok (s.handleAll remote as) (s.handleAll other as) := by
  induction as generalizing s with
  | nil => exact .pure _
  | cons a as ih => exact (handle_follows h s a).bind ih

/-- **Whole runs follow each other.** -/
theorem reconcile_follows (h : Remote.Alike R ok remote other) (as : List Action) :
    Follows R ok (reconcile remote as) (reconcile other as) :=
  (perform_follows h .uninitialized .establish).bind fun s ↦ handleAll_follows h s as

end State

end TraceReconciler
