import TraceReconciler.Reconcile.State
import Mathlib.Data.List.Induction

/-!
# The collapse law

The machine keeps one configuration in a synchronized state and two in a diverged one, and after
every edit it looks at whole values to decide which of the two it is in. A run of edits forgets
nothing by that: the state after it is the state of two configurations, `State.compare`, of which
the one is the start with all edits applied and the other is the start.

* `transition_compare` is the step: an edit of a compared state is compared again, whichever of the
  two forms the state had. The collapsed form holds the remote configuration, which is the local one
  as well, so the next edit starts from the right place.
* `afterEdits_compare` is the run, by induction from the step.

That no state is diverged of two equal configurations rests on less: `compare` never makes such a
state, and nothing else makes diverged states at all.
-/

namespace TraceReconciler

namespace State

/-! ### What a transition can be -/

/-- **What an action can do in a state.** -/
inductive Reaction : State → Action → Transition → Prop
  /-- Nothing. -/
  | ignored {s : State} {a : Action} : Reaction s a {}
  /-- The local configuration is edited. -/
  | edited {s : State} {e : Change} {l b : Configuration} (hl : s.localConfiguration? = some l)
      (hb : s.backend? = some b) : Reaction s (.change e) { next := some (compare (l.apply e) b) }
  /-- Local edits are submitted. -/
  | submitted {l b : Configuration} :
      Reaction (.diverged l b) .synchronize { errand := some (.submit l) }
  /-- The empty configuration is submitted. -/
  | cleared {s : State} {b : Configuration} (hb : s.backend? = some b) :
      Reaction s .reset { errand := some (.submit ∅) }
  /-- After a failure, the state is established anew. -/
  | restarted {e : RemoteError} :
      Reaction (.error e) .retry { next := some .uninitialized, errand := some .establish }

theorem reaction (s : State) (a : Action) : Reaction s a (s.transition a) := by
  cases a with
  | change e =>
    cases s with
    | uninitialized => exact .ignored
    | synchronized c => exact .edited rfl rfl
    | diverged l b => exact .edited rfl rfl
    | error e => exact .ignored
  | synchronize =>
    cases s with
    | diverged l b => exact .submitted
    | _ => exact .ignored
  | reset =>
    cases s with
    | uninitialized => exact .ignored
    | synchronized c => exact .cleared rfl
    | diverged l b => exact .cleared rfl
    | error e => exact .ignored
  | retry =>
    cases s with
    | error e => exact .restarted
    | _ => exact .ignored

/-- An edit is ignored only where there is nothing to be edited. -/
theorem backend?_eq_none_of_ignored {s : State} {e : Change}
    (h : s.transition (.change e) = {}) : s.backend? = none := by
  cases s with
  | uninitialized => rfl
  | synchronized c => simp [transition] at h
  | diverged l b => simp [transition] at h
  | error e => rfl

theorem transition_change {s : State} {e : Change} {l b : Configuration}
    (hl : s.localConfiguration? = some l) (hb : s.backend? = some b) :
    s.transition (.change e) = { next := some (compare (l.apply e) b) } := by
  cases s with
  | synchronized c =>
    obtain rfl := Option.some.inj hl
    obtain rfl := Option.some.inj hb
    rfl
  | diverged l' b' =>
    obtain rfl := Option.some.inj hl
    obtain rfl := Option.some.inj hb
    rfl
  | _ => cases hb

theorem transition_reset {s : State} {b : Configuration} (hb : s.backend? = some b) :
    s.transition .reset = { errand := some (.submit ∅) } := by
  cases s with
  | synchronized c => rfl
  | diverged l b => rfl
  | _ => cases hb

/-! ### Comparing -/

@[simp] theorem compare_self (c : Configuration) : compare c c = .synchronized c := if_pos rfl

theorem compare_of_ne {l b : Configuration} (h : l ≠ b) : compare l b = .diverged l b := if_neg h

@[simp] theorem backend?_compare (l b : Configuration) : (compare l b).backend? = some b := by
  by_cases h : l = b
  · rw [h, compare_self]
    rfl
  · rw [compare_of_ne h]
    rfl

theorem compare_ne_diverged_self (l b c : Configuration) : compare l b ≠ .diverged c c := by
  by_cases h : l = b
  · rw [h, compare_self]
    simp
  · rw [compare_of_ne h]
    rintro heq
    obtain ⟨rfl, rfl⟩ := State.diverged.inj heq
    exact h rfl

/-- **An edit of a compared state is compared again**, whichever form the state had. -/
theorem transition_compare (l b : Configuration) (e : Change) :
    (compare l b).transition (.change e) = { next := some (compare (l.apply e) b) } := by
  by_cases h : l = b
  · rw [h, compare_self]
    rfl
  · rw [compare_of_ne h]
    rfl

/-! ### Runs of edits -/

/-- The state after an edit. -/
def afterEdit (s : State) (e : Change) : State := (s.transition (.change e)).next.getD s

/-- The state after some edits, one after the other. -/
def afterEdits (s : State) (es : List Change) : State := es.foldl afterEdit s

theorem afterEdits_compare (l b : Configuration) (es : List Change) :
    (compare l b).afterEdits es = compare (l.applyAll es) b := by
  induction es generalizing l with
  | nil => rfl
  | cons e es ih =>
    have hstep : (compare l b).afterEdit e = compare (l.apply e) b := by
      rw [afterEdit, transition_compare]
      rfl
    calc (compare l b).afterEdits (e :: es)
        = ((compare l b).afterEdit e).afterEdits es := rfl
      _ = (compare (l.apply e) b).afterEdits es := by rw [hstep]
      _ = compare ((l.apply e).applyAll es) b := ih (l.apply e)
      _ = compare (l.applyAll (e :: es)) b := by rw [Configuration.applyAll_cons]

theorem afterEdits_synchronized (c : Configuration) (es : List Change) :
    (synchronized c).afterEdits es = compare (c.applyAll es) c := by
  rw [← compare_self c, afterEdits_compare]

/-! ### Runs of anything -/

/-- What can happen to a state. -/
inductive Move where
  /-- An action meets it. -/
  | act (a : Action)
  /-- An errand comes to an outcome. -/
  | settle (o : Except RemoteError Configuration)

/-- The state after a move. -/
def move (s : State) : Move → State
  | .act a => (s.transition a).next.getD s
  | .settle o => State.settle o

/-- The state after some moves, in order. -/
def moveAll (s : State) (moves : List Move) : State := moves.foldl move s

theorem moveAll_concat (s : State) (moves : List Move) (m : Move) :
    s.moveAll (moves ++ [m]) = (s.moveAll moves).move m := by
  rw [moveAll, moveAll, List.foldl_append]
  rfl

/-- Only a comparison leads to a diverged state that was not there before. -/
theorem move_ne_diverged_self {s : State} {c : Configuration} (h : s ≠ .diverged c c) (m : Move) :
    s.move m ≠ .diverged c c := by
  cases m with
  | settle o => cases o <;> simp [move, settle]
  | act a =>
    have hr := s.reaction a
    rw [move]
    generalize s.transition a = t at hr ⊢
    cases hr with
    | ignored => exact h
    | edited hl hb => exact compare_ne_diverged_self _ _ c
    | submitted => exact h
    | cleared hb => exact h
    | restarted => simp

theorem moveAll_ne_diverged_self (moves : List Move) (c : Configuration) :
    uninitialized.moveAll moves ≠ .diverged c c := by
  induction moves using List.reverseRecOn with
  | nil => simp [moveAll]
  | append_singleton moves m ih =>
    rw [moveAll_concat]
    exact move_ne_diverged_self ih m

/-- **The collapse law.** A run of edits from a synchronized state never asks for an errand. The
state after it is the start if the edits cancel out, and otherwise it is diverged of the start with
all edits applied and the start. And no state that can be reached at all is diverged of two equal
configurations. -/
theorem edits_collapse (c : Configuration) :
    (∀ es e, ∃ n, ((synchronized c).afterEdits es).transition (.change e) =
      { next := some n, errand := none }) ∧
    (∀ es, (synchronized c).afterEdits es =
      if c.applyAll es = c then .synchronized c else .diverged (c.applyAll es) c) ∧
    ∀ moves, uninitialized.moveAll moves ≠ .diverged c c := by
  refine ⟨fun es e ↦ ?_, fun es ↦ ?_, fun moves ↦ moveAll_ne_diverged_self moves c⟩
  · rw [afterEdits_synchronized]
    exact ⟨_, transition_compare _ c e⟩
  · rw [afterEdits_synchronized, compare]

/-- What was absent and has become empty is not what it was. -/
example : (synchronized ∅).afterEdits [⟨.gc, true, .ofList [7]⟩, ⟨.gc, false, .ofList [7]⟩] =
    .diverged { gc := some ∅ } ∅ := by decide

end State

end TraceReconciler
