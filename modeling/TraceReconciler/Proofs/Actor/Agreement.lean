import TraceReconciler.Actor.Session
import TraceReconciler.Proofs.Actor.Confirmation
import TraceReconciler.Proofs.Reconcile.Sequence

/-!
# Agreement with the plain run

If the answers of the store depend on nothing but the calls made on it, an actor among others does
what the plain run does. The invariant (`System.Faithful`) compares with the plain run over the
actions *handled* so far, so that it does not speak of the queue, and a command that is sent leaves
it as it is.

* Between two actions, journal, state and store are those of the plain run.
* While a call is outstanding, they become those of the plain run by the end of the errand, that is
  by the answer to come and by what it leads to (`System.forecast`). Cutting the errand at its call
  is what makes this a statement about the moment: where the store has begun the call already, only
  the answer is to come.

One lemma for each step of a system, and `System.faithful` by induction.
-/

namespace TraceReconciler

variable {σ : Type}

namespace TimedRemote

/-- A store whose answers depend on the calls made on it, and which no one else calls. -/
def behaviour (remote : TimedRemote σ) : StoreBehaviour σ where
  Begins k x y := y = remote.begin k x
  Ends k x r y := remote.finish k x = (r, y)
  Stirs _ _ := False

/-- The same store without time: a call ends as soon as it has begun. -/
def untimed (remote : TimedRemote σ) : Remote (StateM σ) := fun k x ↦
  remote.finish k (remote.begin k x)

end TimedRemote

namespace System

open Journal

/-! ### What is to come -/

variable (remote : TimedRemote σ)

/-- An errand has been run to its end, and what it has come to is published. -/
def ending (n : State) (j : List Event) (r : (Stage.Outcome × List Event) × σ) :
    (State × List Event) × σ :=
  ((.settle r.1.1, j ++ r.1.2 ++ [.published n (.settle r.1.1)]), r.2)

/-- The answer to the call of a stage, and the store after it. -/
def pending (t : Stage) (s : System σ) : t.call.Answer × σ :=
  remote.finish t.call (if s.isBegun then s.store else remote.begin t.call s.store)

/-- The end of the errand at whose call the actor stands: the state, the journal, and the store. -/
def forecast (t : Stage) (s : System σ) : (State × List Event) × σ :=
  let (r, y) := s.pending remote t
  ending s.actor.state (s.journal ++ [.answered t.call r]) (t.conclude remote.untimed r y)

/-! ### The invariant -/

/-- **The plain run over the actions handled so far comes to the same.** -/
def Faithful (x : σ) (s : System σ) : Prop :=
  match s.actor.phase with
  | .waiting => s.journal = [] ∧ s.actor.state = .uninitialized ∧ s.store = x
  | .calling t => State.reconcile remote.untimed (handled s.journal) x = s.forecast remote t
  | .idle =>
    State.reconcile remote.untimed (handled s.journal) x = ((s.actor.state, s.journal), s.store)
  | .stopped => ∃ j es, s.journal = j ++ es ∧ handled es = [] ∧ published es = [] ∧
    traffic es = [] ∧
    State.reconcile remote.untimed (handled j) x = ((s.actor.state, j), s.store)
  | .killed => False

variable {remote} {x : σ} {s : System σ}

theorem Faithful.calling (h : Faithful remote x s) {t : Stage} (hp : s.actor.phase = .calling t) :
    State.reconcile remote.untimed (handled s.journal) x = s.forecast remote t := by
  rw [Faithful, hp] at h
  exact h

theorem Faithful.idle (h : Faithful remote x s) (hp : s.actor.phase = .idle) :
    State.reconcile remote.untimed (handled s.journal) x =
      ((s.actor.state, s.journal), s.store) := by
  rw [Faithful, hp] at h
  exact h

theorem Faithful.stopped (h : Faithful remote x s) (hp : s.actor.phase = .stopped) :
    ∃ j es, s.journal = j ++ es ∧ handled es = [] ∧ published es = [] ∧ traffic es = [] ∧
      State.reconcile remote.untimed (handled j) x = ((s.actor.state, j), s.store) := by
  rw [Faithful, hp] at h
  exact h

/-- **At rest the plain run has come to the same**, but for the order to stop. -/
theorem Faithful.resting (h : Faithful remote x s)
    (hp : s.actor.phase = .idle ∨ s.actor.phase = .stopped) :
    ∃ j es, s.journal = j ++ es ∧ published es = [] ∧ traffic es = [] ∧
      State.reconcile remote.untimed (handled s.journal) x = ((s.actor.state, j), s.store) := by
  rcases hp with hp | hp
  · exact ⟨s.journal, [], (List.append_nil _).symm, rfl, rfl, h.idle hp⟩
  · obtain ⟨j, es, hj, hes, hpublished, htraffic, hrun⟩ := h.stopped hp
    refine ⟨j, es, hj, hpublished, htraffic, ?_⟩
    rw [hj, handled_append, hes, List.append_nil]
    exact hrun

/-- **A stage has just been entered**: what is to come is the errand run from there. -/
theorem forecast_entered {t : Stage} {j : List Event} (hj : s.journal = j ++ t.start)
    (hb : s.isBegun = false) :
    s.forecast remote t = ending s.actor.state j (t.run remote.untimed s.store) := by
  rcases hfirst : remote.untimed t.call s.store with ⟨r, y⟩
  have hpending : s.pending remote t = (r, y) := by
    rw [pending, hb]
    exact hfirst
  rw [forecast, hpending, Stage.run_apply hfirst, hj]
  simp [ending]

theorem Faithful.of_entered {t : Stage} {j : List Event} (hp : s.actor.phase = .calling t)
    (hj : s.journal = j ++ t.start) (hb : s.isBegun = false)
    (h : State.reconcile remote.untimed (handled s.journal) x =
      ending s.actor.state j (t.run remote.untimed s.store)) :
    Faithful remote x s := by
  rw [Faithful, hp, h]
  exact (forecast_entered hj hb).symm

/-! ### Steps -/

/-- **The first fetch is called for**, and the plain run begins. -/
theorem faithful_start (hp : s.actor.phase = .waiting) (h : Faithful remote x s) :
    Faithful remote x (s.adopt (s.actor.begin .opening)) := by
  rw [Faithful, hp] at h
  obtain ⟨hj, hn, rfl⟩ := h
  refine .of_entered (t := .opening) (j := []) rfl ?_ rfl ?_
  · rw [adopt, hj]
    rfl
  · have hestablish : State.reconcile remote.untimed [] s.store =
        State.establish remote.untimed s.store := by rw [State.reconcile_nil]
    rw [adopt, hj]
    simp only [Actor.begin, hn]
    exact hestablish

/-- **An answer has come**: if it ends the errand, what was to come is there, and if it leads to
another stage, the same is still to come. -/
theorem faithful_answer {t : Stage} {r : t.call.Answer} {y : σ} (hp : s.actor.phase = .calling t)
    (hb : s.isBegun = true) (hy : remote.finish t.call s.store = (r, y)) (h : Faithful remote x s) :
    Faithful remote x ({ s with store := y }.adopt (s.actor.answer t r)) := by
  have hpending : s.pending remote t = (r, y) := by
    rw [pending, hb]
    exact hy
  have hrun := h.calling hp
  rw [forecast, hpending] at hrun
  dsimp only at hrun
  -- What is left of the errand after the answer is a run from the next stage, or nothing.
  cases hr : t.resume r with
  | inl t' =>
    rw [Stage.conclude_of_inl _ hr] at hrun
    simp only [Actor.answer, hr, Actor.begin, adopt]
    refine .of_entered (j := s.journal ++ [.answered t.call r]) rfl ?_ rfl ?_
    · rw [List.append_assoc, List.singleton_append]
    · rw [handled_append, Stage.handled_answered_start, List.append_nil]
      exact hrun
  | inr o =>
    rw [Stage.conclude_of_inr _ hr] at hrun
    have hquiet : handled [.answered t.call r, .published s.actor.state (.settle o)] = [] := rfl
    simp only [Actor.answer, hr, Actor.publish, Actor.rest, adopt, Faithful]
    rw [handled_append, hquiet, List.append_nil, hrun]
    show ending s.actor.state (s.journal ++ [.answered t.call r]) ((o, []), y) = _
    simp [ending]

/-- More has happened before. -/
def preceded (j : List Event) (r : (State × List Event) × σ) : (State × List Event) × σ :=
  ((r.1.1, j ++ r.1.2), r.2)

theorem preceded_ending (n : State) (j es : List Event) (r : (Stage.Outcome × List Event) × σ) :
    preceded j (ending n es r) = ending n (j ++ es) r := by
  simp [preceded, ending]

/-- The plain run goes on from where it has come to. -/
theorem reconcile_concat_apply {as : List Action} {n : State} {j : List Event} {y : σ}
    (h : State.reconcile remote.untimed as x = ((n, j), y)) (a : Action) :
    State.reconcile remote.untimed (as ++ [a]) x = preceded j (n.handle remote.untimed a y) := by
  rw [State.reconcile_concat]
  show preceded (State.reconcile remote.untimed as x).1.2
    ((State.reconcile remote.untimed as x).1.1.handle remote.untimed a
      (State.reconcile remote.untimed as x).2) = _
  rw [h]

/-- **An action is taken that is dealt with at once.** -/
theorem faithful_rest {a : Action} {a' : Actor} {es : List Event} (hp : s.actor.phase = .idle)
    (h : Faithful remote x s) (hp' : a'.phase = .idle) (hes : handled es = [a])
    (hhandle : s.actor.state.handle remote.untimed a = pure (a'.state, es)) :
    Faithful remote x (s.adopt (a', es)) := by
  have hrun := reconcile_concat_apply (h.idle hp) a
  rw [hhandle] at hrun
  rw [adopt, Faithful, hp']
  dsimp only
  rw [handled_append, hes, hrun]
  rfl

/-- **An action is taken that calls for an errand.** -/
theorem faithful_errand {a : Action} {e : Errand} {a' : Actor} (es : List Event)
    (hp : s.actor.phase = .idle) (h : Faithful remote x s) (hp' : a'.phase = .calling e.stage)
    (hes : handled (es ++ e.stage.start) = [a])
    (hhandle : ∀ y, s.actor.state.handle remote.untimed a y =
      ending a'.state es (e.stage.run remote.untimed y)) :
    Faithful remote x (s.adopt (a', es ++ e.stage.start)) := by
  refine .of_entered (t := e.stage) (j := s.journal ++ es) hp' ?_ rfl ?_
  · rw [adopt, List.append_assoc]
  · have hrun := reconcile_concat_apply (h.idle hp) a
    rw [hhandle, preceded_ending] at hrun
    rw [adopt, handled_append, hes]
    exact hrun

/-- **A command is taken** by an idle actor, and the plain run goes on with the same action. -/
theorem faithful_take {a' : Actor} {es : List Event} (hm : s.actor.Moves es a')
    (hp : s.actor.phase = .idle) (h : Faithful remote x s) :
    Faithful remote x (s.adopt (a', es)) := by
  cases hm with
  | opened hp' => simp [hp] at hp'
  | passed hp' hr => simp [hp] at hp'
  | settled hp' hr => simp [hp] at hp'
  | ignored _ hq ha => exact faithful_rest hp h rfl rfl (State.handle_of_eq_ignored _ ha)
  | @edited e _ _ _ _ hq hl hb =>
    have ht := State.transition_change (e := e) hl hb
    exact faithful_rest hp h rfl rfl (State.handle_of_eq_next _ ht)
  | @submitted q l b _ hq hs =>
    have ht : s.actor.state.transition .synchronize = { errand := some (.submit l) } := by
      rw [hs]
      rfl
    refine faithful_errand (e := .submit l) [.taken .synchronize] hp h rfl rfl fun y ↦ ?_
    rw [State.handle_of_eq_errand _ ht]
    rfl
  | cleared _ hq hb =>
    have ht := State.transition_reset hb
    refine faithful_errand (e := .submit ∅) [.taken .reset] hp h rfl rfl fun y ↦ ?_
    rw [State.handle_of_eq_errand _ ht]
    rfl
  | restarted _ hq hs =>
    have ht : s.actor.state.transition .retry =
        { next := some .uninitialized, errand := some .establish } := by
      rw [hs]
      rfl
    refine faithful_errand (e := .establish)
      [.taken .retry, .published s.actor.state .uninitialized] hp h rfl rfl fun y ↦ ?_
    rw [State.handle_of_eq_next_errand _ ht]
    rfl
  | closed _ hq => exact ⟨s.journal, _, rfl, rfl, rfl, rfl, h.idle hp⟩
  | ended _ hq hh => exact ⟨s.journal, _, rfl, rfl, rfl, rfl, h.idle hp⟩

/-- **Whatever a system with the store does**, its journal stays that of the plain run. -/
theorem faithful (h : Reachable remote.behaviour x s) : Faithful remote x s := by
  induction h with
  | refl => exact ⟨rfl, rfl, rfl⟩
  | tail _ hstep ih =>
    cases hstep with
    | send c hg hh => exact ih
    | release hh => exact ih
    | stir hy => exact hy.elim
    | start hp => exact faithful_start hp ih
    | call hp hb hy =>
      -- What is pending counts the beginning of the call, whether or not it is past.
      have hrun := ih.calling hp
      rw [Faithful, hp]
      rw [forecast, pending, hb] at hrun
      rw [hy]
      exact hrun
    | answer hp hb hy => exact faithful_answer hp hb hy ih
    | take hr => exact faithful_take (Actor.moves_of_take? hr) (phase_of_take? hr) ih

end System

end TraceReconciler
