import TraceReconciler.Proofs.Actor.Agreement

/-!
# Timing does not matter

Commands may be sent at any moment: before the first fetch, while a call is outstanding, between the
end of one call and the beginning of the next. If the answers of the store depend on nothing but the
calls made on it, none of this can be seen in what the actor does: once it has stopped, it has
published the states, made the calls and got the answers of the plain run over the actions sent, in
the order in which they were sent, with no overlap at all.

That it stops is not a matter of timing either. The order to stop, or that no one holds the actor
any more, is enough: there is always a step to be taken (`System.exists_unattended`), and each step
but the sending of a command lowers a number (`System.effort_lt_of_unattended`), so that whoever
chooses among the steps comes to the end (`System.stops`).
-/

namespace TraceReconciler

variable {σ : Type}

/-- An idle actor takes what there is in its queue, and without a queue it stops if no one holds
it. -/
theorem Actor.exists_take? {a : Actor} (hp : a.phase = .idle)
    (h : a.queue ≠ [] ∨ a.isHeld = false) : ∃ r, a.take? = some r := by
  obtain ⟨n, phase, queue, isHeld, processed, version⟩ := a
  subst hp
  cases queue with
  | nil =>
    obtain rfl : isHeld = false := h.resolve_left (fun hq ↦ hq rfl)
    exact ⟨_, rfl⟩
  | cons c q => cases c <;> exact ⟨_, rfl⟩

/-- No errand takes more than three calls. -/
theorem Stage.rank_le (t : Stage) : t.rank ≤ 3 := by cases t <;> simp [rank]

namespace System

open Journal

/-! ### One call at a time -/

/-- The call that waits for its answer. -/
def outstanding (a : Actor) : List Event :=
  match a.phase with
  | .calling t => [.called t.call]
  | _ => []

/-- Calls that are answered one after the other. -/
def exchanges (xs : List Exchange) : List Event :=
  xs.flatMap fun x ↦ [.called x.call, .answered x.call x.answer]

/-- **What a move does to the traffic**: nothing, or a call where none was outstanding, or the
answer to the call that was. -/
theorem traffic_of_moves {a a' : Actor} {es : List Event} (hm : a.Moves es a') :
    traffic es = [] ∧ outstanding a = outstanding a' ∨
      outstanding a = [] ∧ traffic es = outstanding a' ∨
      ∃ t r, outstanding a = [.called (Stage.call t)] ∧
        traffic es = .answered (Stage.call t) r :: outstanding a' := by
  cases hm with
  | opened hp => exact .inr (.inl ⟨by simp [outstanding, hp], rfl⟩)
  | @passed t t' r hp hr =>
    refine .inr (.inr ⟨t, r, by simp [outstanding, hp], ?_⟩)
    cases t' <;> rfl
  | @settled t r o hp hr => exact .inr (.inr ⟨t, r, by simp [outstanding, hp], rfl⟩)
  | ignored hp hq hx => exact .inl ⟨rfl, by simp [outstanding, hp, Actor.rest]⟩
  | edited hp hq hl hb => exact .inl ⟨rfl, by simp [outstanding, hp, Actor.rest]⟩
  | submitted hp hq hs => exact .inr (.inl ⟨by simp [outstanding, hp], rfl⟩)
  | cleared hp hq hb => exact .inr (.inl ⟨by simp [outstanding, hp], rfl⟩)
  | restarted hp hq hs => exact .inr (.inl ⟨by simp [outstanding, hp], rfl⟩)
  | closed hp hq => exact .inl ⟨rfl, by simp [outstanding, hp]⟩
  | ended hp hq hh => exact .inl ⟨rfl, by simp [outstanding, hp]⟩

/-- Calls and answers take turns, and each answer is to the call before it. -/
def OneAtATime (j : List Event) (a : Actor) : Prop :=
  ∃ xs, traffic j = exchanges xs ++ outstanding a

theorem oneAtATime_moves {j es : List Event} {a a' : Actor} (hm : a.Moves es a')
    (h : OneAtATime j a) : OneAtATime (j ++ es) a' := by
  obtain ⟨xs, hxs⟩ := h
  rcases traffic_of_moves hm with ⟨hes, hout⟩ | ⟨hout, hes⟩ | ⟨t, r, hout, hes⟩
  · exact ⟨xs, by rw [traffic_append, hxs, hes, hout, List.append_nil]⟩
  · exact ⟨xs, by rw [traffic_append, hxs, hes, hout, List.append_nil]⟩
  · refine ⟨xs ++ [⟨t.call, r⟩], ?_⟩
    rw [traffic_append, hxs, hes, hout, exchanges, exchanges, List.flatMap_append]
    simp

theorem oneAtATime {w : StoreBehaviour σ} {x : σ} {s : System σ} (h : Reachable w x s) :
    OneAtATime s.journal s.actor :=
  invariant (P := fun _ ↦ OneAtATime) ⟨[], rfl⟩ (fun _ _ h ↦ h) (fun h ↦ h) oneAtATime_moves h

/-! ### Coming to an end -/

/-- A step other than the sending of a command. -/
def Unattended (w : StoreBehaviour σ) (s s' : System σ) : Prop := Step w s s' ∧ s'.sent = s.sent

/-- **The actor is going to stop**, whichever steps are taken, if no more commands are sent. -/
inductive Stops (w : StoreBehaviour σ) : System σ → Prop
  | stopped {s : System σ} (hp : s.actor.phase = .stopped) : Stops w s
  | later {s : System σ} (hgo : ∃ s', Unattended w s s')
      (h : ∀ s', Unattended w s s' → Stops w s') : Stops w s

/-- The order to stop was sent, or no one holds the actor any more. -/
def IsDismissed (s : System σ) : Prop := .shutdown ∈ s.sent ∨ s.actor.isHeld = false

/-- More steps than are taken before the actor stops, or waits for a command. -/
def effort (s : System σ) : Nat :=
  8 * s.actor.queue.length + s.actor.isHeld.toNat +
    match s.actor.phase with
    | .waiting => 8
    | .calling t => 2 * t.rank + (!s.isBegun).toNat
    | .idle => 1
    | .stopped => 0
    | .killed => 0

/-- A command gone from the queue pays for any errand that it calls for. -/
theorem effort_adopt_lt_of_taken {s : System σ} {c : Command} {a' : Actor} (es : List Event)
    (hp : s.actor.phase = .idle) (hq : s.actor.queue = c :: a'.queue)
    (hh : a'.isHeld = s.actor.isHeld)
    (hp' : a'.phase = .idle ∨ a'.phase = .stopped ∨ ∃ t, a'.phase = .calling t) :
    (s.adopt (a', es)).effort < s.effort := by
  have hbefore : s.effort = 8 * a'.queue.length + s.actor.isHeld.toNat + 9 := by
    simp only [effort, hp, hq, List.length_cons]
    omega
  rw [hbefore]
  simp only [effort, adopt, hh]
  rcases hp' with hp' | hp' | ⟨t, hp'⟩
  · simp only [hp']
    omega
  · simp only [hp']
    omega
  · have hrank : t.rank ≤ 3 := t.rank_le
    simp only [hp', Bool.not_false, Bool.toNat_true]
    omega

theorem effort_adopt_lt {s : System σ} {a' : Actor} {es : List Event} (hm : s.actor.Moves es a') :
    (s.adopt (a', es)).effort < s.effort := by
  cases hm with
  | opened hp =>
    simp only [effort, adopt, hp, Stage.rank, Bool.not_false, Bool.toNat_true]
    omega
  | @passed t t' r hp hr =>
    have hrank := Stage.rank_lt_of_resume hr
    simp only [effort, adopt, hp, Bool.not_false, Bool.toNat_true]
    omega
  | @settled t r o hp hr =>
    have hrank := t.rank_pos
    simp only [effort, adopt, hp, Actor.rest]
    omega
  | ignored hp hq hx => exact effort_adopt_lt_of_taken _ hp hq rfl (.inl rfl)
  | edited hp hq hl hb => exact effort_adopt_lt_of_taken _ hp hq rfl (.inl rfl)
  | submitted hp hq hs => exact effort_adopt_lt_of_taken _ hp hq rfl (.inr (.inr ⟨_, rfl⟩))
  | cleared hp hq hb => exact effort_adopt_lt_of_taken _ hp hq rfl (.inr (.inr ⟨_, rfl⟩))
  | restarted hp hq hs => exact effort_adopt_lt_of_taken _ hp hq rfl (.inr (.inr ⟨_, rfl⟩))
  | closed hp hq => exact effort_adopt_lt_of_taken _ hp hq rfl (.inr (.inl rfl))
  | ended hp hq hh =>
    simp only [effort, adopt, hp, hq]
    omega

variable {remote : TimedRemote σ} {x : σ} {s s' : System σ}

theorem effort_lt_of_unattended (h : Unattended remote.behaviour s s') : s'.effort < s.effort := by
  obtain ⟨hstep, hsent⟩ := h
  cases hstep with
  | send c hg hh => simp at hsent
  | release hh => simp [effort, Actor.release, hh]
  | stir hy => exact hy.elim
  | start hp => exact effort_adopt_lt (Actor.moves_begin hp)
  | call hp hb hy => simp [effort, hp, hb]
  | answer hp hb hy =>
    exact effort_adopt_lt (s := { s with store := _ }) (Actor.moves_answer hp _)
  | take hr => exact effort_adopt_lt (Actor.moves_of_take? hr)

/-- An actor that is dismissed stays so. -/
theorem IsDismissed.unattended {w : StoreBehaviour σ} (h : s.IsDismissed)
    (hstep : Unattended w s s') : s'.IsDismissed := by
  obtain ⟨hstep, hsent⟩ := hstep
  rcases h with h | h
  · exact .inl (hsent ▸ h)
  · refine .inr ?_
    cases hstep with
    | send c hg hh => exact h
    | release hh => rfl
    | stir hy => exact h
    | start hp => exact h
    | call hp hb hy => exact h
    | answer hp hb hy => exact (Actor.moves_answer hp _).isHeld_eq.trans h
    | take hr => exact (Actor.moves_of_take? hr).isHeld_eq.trans h

/-- The order to stop is in the queue if it was sent and has not been taken. -/
theorem Reachable.queue_ne_nil_or {w : StoreBehaviour σ} (h : Reachable w x s) (hd : s.IsDismissed)
    (hp : s.actor.phase ≠ .stopped) : s.actor.queue ≠ [] ∨ s.actor.isHeld = false := by
  refine hd.imp_left fun hmem hq ↦ ?_
  obtain ⟨rest, hsent, hrest, -⟩ := inOrder h
  rw [hsent, hrest hp, hq] at hmem
  simp at hmem

/-- **An actor that is dismissed never waits.** -/
theorem exists_unattended (h : Reachable remote.behaviour x s) (hd : s.IsDismissed)
    (hp : s.actor.phase ≠ .stopped) : ∃ s', Unattended remote.behaviour s s' := by
  cases hphase : s.actor.phase with
  | waiting => exact ⟨_, .start hphase, rfl⟩
  | calling t =>
    cases hb : s.isBegun with
    | false => exact ⟨_, .call hphase hb rfl, rfl⟩
    | true => exact ⟨_, .answer hphase hb rfl, rfl⟩
  | idle =>
    obtain ⟨r, hr⟩ := Actor.exists_take? hphase (h.queue_ne_nil_or hd hp)
    exact ⟨_, .take hr, rfl⟩
  | stopped => exact absurd hphase hp
  | killed =>
    have haccounted := (accounted h).2
    rw [hphase] at haccounted
    exact haccounted.elim

/-- **An actor that is dismissed stops.** -/
theorem stops (h : Reachable remote.behaviour x s) (hd : s.IsDismissed) :
    Stops remote.behaviour s := by
  induction hn : s.effort using Nat.strongRecOn generalizing s with
  | _ n ih =>
    by_cases hp : s.actor.phase = .stopped
    · exact .stopped hp
    · refine .later (exists_unattended h hd hp) fun s' hs ↦ ?_
      exact ih _ (hn ▸ effort_lt_of_unattended hs) (h.tail hs.1) (hd.unattended hs) rfl

/-! ### The comparison -/

/-- **Timing does not matter.** However the steps of a system with a store whose answers depend on
the calls only are interleaved with the sending of commands:

* calls and answers take turns, so that one call is outstanding at most;
* the actions handled are those sent before the order to stop, each of them once, in the order in
  which they were sent, from the first one on;
* an actor that is to stop, or that no one holds any more, stops, whatever is done next;
* when it has stopped, all these actions have been handled, and the states published, the calls with
  their answers, the state and the store are those of the plain run over them. -/
theorem interleaving_eq_sequential (h : Reachable remote.behaviour x s) :
    (∃ xs, traffic s.journal = exchanges xs ++ outstanding s.actor) ∧
    handled s.journal <+: due s.sent ∧
    (.shutdown ∈ s.sent ∨ s.actor.isHeld = false → Stops remote.behaviour s) ∧
    (s.actor.phase = .stopped → handled s.journal = due s.sent ∧
      ∃ j, State.reconcile remote.untimed (due s.sent) x = ((s.actor.state, j), s.store) ∧
        published s.journal = published j ∧ traffic s.journal = traffic j) := by
  refine ⟨oneAtATime h, handled_prefix_due h, fun hd ↦ stops h hd, fun hp ↦ ?_⟩
  have hhandled := handled_eq_due h hp
  obtain ⟨j, es, hj, hes, hpublished, htraffic, hrun⟩ := (faithful h).stopped hp
  have hdue : handled j = due s.sent := by
    rw [← hhandled, hj, handled_append, hes, List.append_nil]
  refine ⟨hhandled, j, ?_, ?_, ?_⟩
  · rw [← hdue]
    exact hrun
  · rw [hj, published_append, hpublished, List.append_nil]
  · rw [hj, traffic_append, htraffic, List.append_nil]

/-- An edit and its submission are sent while a store that was never written is being seeded, and
the order to stop while the edit is being written. -/
theorem interleaving_eq_sequential_overlapping :
    ∃ s : System Memory, Reachable (Memory.timed (some 5)).behaviour {} s ∧
      s.sent = [.handle (.change ⟨.gc, true, .ofList [7]⟩), .handle .synchronize, .shutdown] ∧
      s.actor.phase = .stopped ∧
      ∃ j, State.reconcile (Memory.timed (some 5)).untimed
          [.change ⟨.gc, true, .ofList [7]⟩, .synchronize] {} =
        ((.synchronized { gc := some (.ofList [7]) }, j), s.store) ∧
        published s.journal = published j ∧ traffic s.journal = traffic j := by
  have h₀ : Reachable (Memory.timed (some 5)).behaviour {} (initial {}) := .refl
  have h₁ := (h₀.tail (.start rfl)).tail (.call rfl rfl rfl)
  have h₂ := h₁.tail (.send (.handle (.change ⟨.gc, true, .ofList [7]⟩)) rfl rfl)
  have h₃ := (h₂.tail (.answer rfl rfl rfl)).tail (.call rfl rfl rfl)
  have h₄ := h₃.tail (.send (.handle .synchronize) rfl rfl)
  have h₅ := ((h₄.tail (.answer rfl rfl rfl)).tail (.call rfl rfl rfl)).tail (.answer rfl rfl rfl)
  have h₆ := ((h₅.tail (.take rfl)).tail (.take rfl)).tail (.call rfl rfl rfl)
  have h₇ := h₆.tail (.send .shutdown rfl rfl)
  have h₈ := ((h₇.tail (.answer rfl rfl rfl)).tail (.call rfl rfl rfl)).tail (.answer rfl rfl rfl)
  have h₉ := h₈.tail (.take rfl)
  exact ⟨_, h₉, rfl, rfl, ((interleaving_eq_sequential h₉).2.2.2 rfl).2⟩

end System

end TraceReconciler
