import TraceReconciler.Proofs.Actor.System
import TraceReconciler.Remote.Memory

/-!
# The published state is confirmed

Between two actions the state of an actor is never older than the last call: a configuration that it
takes for the remote one is what the last call has fetched, and a failure is the one that the last
call has reported. What was there before a failure is forgotten, and nothing is taken for confirmed
because it was written.

The invariant is `Accounted`. Between two actions it says more than the confirmation
(`Journal.Confirms`): the local configuration is the fetched one with all edits handled since
(`Journal.Backs`), which is what licenses a submission. While a call is outstanding it says that the
call is the last event of the journal, so that the answer confirms what is published next, whichever
way the errand ends.
-/

namespace TraceReconciler

namespace Journal

/-- **A state is confirmed by a journal**: the last call fetched the remote configuration that the
state holds, or failed with the failure that it holds. -/
def Confirms (j : List Event) : State → Prop
  | .uninitialized => False
  | .synchronized b => ∃ since, LastCall j .fetch (.ok b) since
  | .diverged _ b => ∃ since, LastCall j .fetch (.ok b) since
  | .error e => ∃ k since, LastCall j k (.error e) since

/-- A state is confirmed, and its local configuration is the one fetched by the last call with all
edits handled since. -/
def Backs (j : List Event) : State → Prop
  | .uninitialized => False
  | .synchronized b =>
    ∃ since, LastCall j .fetch (.ok b) since ∧ b.applyAll (edits since) = b
  | .diverged l b =>
    ∃ since, LastCall j .fetch (.ok b) since ∧ b.applyAll (edits since) = l ∧ l ≠ b
  | .error e => ∃ k since, LastCall j k (.error e) since

theorem Backs.confirms {j : List Event} {s : State} (h : Backs j s) : Confirms j s := by
  cases s with
  | uninitialized => exact h
  | synchronized b =>
    obtain ⟨since, hlast, -⟩ := h
    exact ⟨since, hlast⟩
  | diverged l b =>
    obtain ⟨since, hlast, -⟩ := h
    exact ⟨since, hlast⟩
  | error e => exact h

theorem Backs.ne_uninitialized {j : List Event} {s : State} (h : Backs j s) :
    s ≠ .uninitialized := by
  rintro rfl
  exact h

/-- What a state with a remote configuration is made of, in both of its forms. -/
theorem Backs.exists_since {j : List Event} {s : State} {l b : Configuration} (h : Backs j s)
    (hl : s.localConfiguration? = some l) (hb : s.backend? = some b) :
    ∃ since, LastCall j .fetch (.ok b) since ∧ b.applyAll (edits since) = l := by
  cases s with
  | uninitialized => cases hb
  | synchronized c =>
    obtain rfl := Option.some.inj hl
    obtain rfl := Option.some.inj hb
    exact h
  | diverged l' b' =>
    obtain rfl := Option.some.inj hl
    obtain rfl := Option.some.inj hb
    obtain ⟨since, hlast, heq, -⟩ := h
    exact ⟨since, hlast, heq⟩
  | error e => cases hb

/-- Events without a call change nothing, if there is no edit among them or nothing to be edited. -/
theorem Backs.append {j es : List Event} {s : State} (h : Backs j s) (hquiet : traffic es = [])
    (hes : s.backend? = none ∨ edits es = []) : Backs (j ++ es) s := by
  have hedits (b : Configuration) (hb : s.backend? = some b) (since : List Event) :
      edits (since ++ es) = edits since := by
    rcases hes with hnone | hnil
    · rw [hb] at hnone
      cases hnone
    · rw [edits_append, hnil, List.append_nil]
  cases s with
  | uninitialized => exact h
  | synchronized b =>
    obtain ⟨since, hlast, heq⟩ := h
    exact ⟨since ++ es, hlast.append hquiet, by rw [hedits b rfl, heq]⟩
  | diverged l b =>
    obtain ⟨since, hlast, heq, hne⟩ := h
    exact ⟨since ++ es, hlast.append hquiet, by rw [hedits b rfl, heq], hne⟩
  | error e =>
    obtain ⟨k, since, hlast⟩ := h
    exact ⟨k, since ++ es, hlast.append hquiet⟩

/-- **An edit is accounted for**, whether the state collapses or not. -/
theorem Backs.edit {j es : List Event} {s : State} {l b : Configuration} {e : Change}
    (h : Backs j s) (hl : s.localConfiguration? = some l) (hb : s.backend? = some b)
    (hquiet : traffic es = []) (hes : edits es = [e]) :
    Backs (j ++ es) (.compare (l.apply e) b) := by
  obtain ⟨since, hlast, rfl⟩ := h.exists_since hl hb
  have heq : b.applyAll (edits (since ++ es)) = (b.applyAll (edits since)).apply e := by
    rw [edits_append, hes, Configuration.applyAll_append]
    rfl
  by_cases hc : (b.applyAll (edits since)).apply e = b
  · rw [hc, State.compare_self]
    exact ⟨since ++ es, hlast.append hquiet, by rw [heq, hc]⟩
  · rw [State.compare_of_ne hc]
    exact ⟨since ++ es, hlast.append hquiet, heq, hc⟩

/-- **The answer that ends an errand confirms what the errand settles in.** Only a fetch can bring
an errand to a good end. -/
theorem backs_settle {t : Stage} {r : t.call.Answer} {o : Stage.Outcome} (hr : t.resume r = .inr o)
    {before since : List Event} (hquiet : traffic since = []) (hes : edits since = []) :
    Backs ((before ++ [.called t.call]) ++ .answered t.call r :: since) (.settle o) := by
  have hlast : LastCall ((before ++ [.called t.call]) ++ .answered t.call r :: since) t.call r
    since := .of_called hquiet
  cases o with
  | error e =>
    obtain rfl := Stage.eq_error_of_resume hr
    exact ⟨t.call, since, hlast⟩
  | ok c =>
    have hsince : c.applyAll (edits since) = c := by rw [hes, Configuration.applyAll_nil]
    cases Stage.brings_of_resume hr with
    | opening => exact ⟨since, hlast, hsince⟩
    | confirming => exact ⟨since, hlast, hsince⟩

end Journal

namespace System

open Journal

/-! ### The invariant -/

/-- What a journal looks like before a state is established. -/
def Opens (j : List Event) : Prop :=
  j = [] ∨ ∃ before s, j = before ++ [.taken .retry, .published s .uninitialized]

/-- **A journal accounts for an actor**: for the state that it has published, and for the call that
is outstanding. -/
def Accounted (j : List Event) (a : Actor) : Prop :=
  Journal.state j = a.state ∧
    match a.phase with
    | .waiting => j = []
    | .calling t => ∃ before, j = before ++ [.called t.call] ∧ (t = .opening → Opens before)
    | .idle => Backs j a.state
    | .stopped => Backs j a.state
    | .killed => False

theorem Accounted.backs {j : List Event} {a : Actor} (h : Accounted j a)
    (hp : a.phase = .idle ∨ a.phase = .stopped) : Backs j a.state := by
  obtain ⟨-, h⟩ := h
  rcases hp with hp | hp
  · rw [hp] at h
    exact h
  · rw [hp] at h
    exact h

theorem Accounted.exists_called {j : List Event} {a : Actor} (h : Accounted j a) {t : Stage}
    (hp : a.phase = .calling t) :
    ∃ before, j = before ++ [.called t.call] ∧ (t = .opening → Opens before) := by
  obtain ⟨-, h⟩ := h
  rw [hp] at h
  exact h

/-- Whatever the answer leads to, the call of the next stage is the last event. -/
theorem start_eq (t : Stage) : ∃ es, t.start = es ++ [.called t.call] ∧ published es = [] := by
  cases t with
  | seeding => exact ⟨[.seeding], rfl, rfl⟩
  | _ => exact ⟨[], rfl, rfl⟩

theorem accounted_moves {j es : List Event} {a a' : Actor} (hm : a.Moves es a')
    (h : Accounted j a) : Accounted (j ++ es) a' := by
  have hstate := h.1
  cases hm with
  | opened hp =>
    have hj : j = [] := by
      obtain ⟨-, h⟩ := h
      rw [hp] at h
      exact h
    exact ⟨(state_append_of_nil rfl).trans hstate, j, rfl, fun _ ↦ .inl hj⟩
  | @passed t t' r hp hr =>
    obtain ⟨es, hes, hquiet⟩ := start_eq t'
    refine ⟨(state_append_of_nil ?_).trans hstate, j ++ .answered t.call r :: es, ?_, ?_⟩
    · rw [hes]
      exact (published_append es _).trans (by rw [hquiet]; rfl)
    · rw [hes, List.append_assoc, List.cons_append]
    · rintro rfl
      cases Stage.leads_of_resume hr
  | settled hp hr =>
    obtain ⟨before, rfl, -⟩ := h.exists_called hp
    exact ⟨state_append_of_singleton rfl, backs_settle hr rfl rfl⟩
  | @ignored x q hp hq hx =>
    refine ⟨(state_append_of_nil rfl).trans hstate, (h.backs (.inl hp)).append rfl ?_⟩
    cases x with
    | change e => exact .inl (State.backend?_eq_none_of_ignored hx)
    | _ => exact .inr rfl
  | edited hp hq hl hb =>
    exact ⟨state_append_of_singleton rfl, (h.backs (.inl hp)).edit hl hb rfl rfl⟩
  | submitted hp hq hs =>
    exact ⟨(state_append_of_nil rfl).trans hstate, j ++ [.taken .synchronize],
      by rw [List.append_assoc, List.singleton_append], nofun⟩
  | cleared hp hq hb =>
    exact ⟨(state_append_of_nil rfl).trans hstate, j ++ [.taken .reset],
      by rw [List.append_assoc, List.singleton_append], nofun⟩
  | restarted hp hq hs =>
    exact ⟨state_append_of_singleton rfl, j ++ [.taken .retry, .published a.state .uninitialized],
      by rw [List.append_assoc]; rfl, fun _ ↦ .inr ⟨j, a.state, rfl⟩⟩
  | closed hp hq =>
    exact ⟨(state_append_of_nil rfl).trans hstate, (h.backs (.inl hp)).append rfl (.inr rfl)⟩
  | ended hp hq hh =>
    exact ⟨(state_append_of_nil rfl).trans hstate, (h.backs (.inl hp)).append rfl (.inr rfl)⟩

variable {σ : Type}

theorem accounted {w : StoreBehaviour σ} {x : σ} {s : System σ} (h : Reachable w x s) :
    Accounted s.journal s.actor :=
  invariant (P := fun _ ↦ Accounted) ⟨rfl, rfl⟩ (fun _ _ h ↦ h) (fun h ↦ h) accounted_moves h

/-! ### No action meets a state that was never established -/

/-- If an event takes up an action, the state is established. -/
def Established (past : List Event) (e : Event) : Prop :=
  ∀ x, e = .taken x → Journal.state past ≠ .uninitialized

theorem established_of_handled_nil {past es : List Event} (h : handled es = []) :
    Throughout Established past es := by
  refine .of_filterMap_eq_nil h fun p e he x hx ↦ ?_
  rw [hx] at he
  cases he

theorem established_moves {j es : List Event} {a a' : Actor} (hm : a.Moves es a')
    (h : Accounted j a) : Throughout Established j es := by
  -- An action is taken by an idle actor only, and it is the first event then.
  have htaken (hp : a.phase = .idle) (e : Event) {es : List Event} (hes : handled es = []) :
      Throughout Established j (e :: es) := by
    refine ⟨fun x hx ↦ ?_, established_of_handled_nil hes⟩
    rw [h.1]
    exact (h.backs (.inl hp)).ne_uninitialized
  cases hm with
  | opened hp => exact established_of_handled_nil rfl
  | passed hp hr => exact established_of_handled_nil (Stage.handled_answered_start _)
  | settled hp hr => exact established_of_handled_nil rfl
  | ignored hp hq hx => exact htaken hp _ rfl
  | edited hp hq hl hb => exact htaken hp _ rfl
  | submitted hp hq hs => exact htaken hp _ rfl
  | cleared hp hq hb => exact htaken hp _ rfl
  | restarted hp hq hs => exact htaken hp _ rfl
  | closed hp hq => exact established_of_handled_nil rfl
  | ended hp hq hh => exact established_of_handled_nil rfl

theorem established {w : StoreBehaviour σ} {x : σ} {s : System σ} (h : Reachable w x s) :
    Throughout Established [] s.journal := by
  refine (invariant (P := fun _ j a ↦ Accounted j a ∧ Throughout Established [] j)
    ⟨⟨rfl, rfl⟩, trivial⟩ (fun _ _ h ↦ h) (fun h ↦ h) (fun hm h ↦ ?_) h).2
  exact ⟨accounted_moves hm h.1, throughout_append.2 ⟨h.2, established_moves hm h.1⟩⟩

end System

/-! ### A store in memory -/

namespace Memory

/-- **A store in memory that no one else writes to.** A call may be given up before it is finished,
and others may do anything to the store but change what it holds: they make calls fail, or call it
themselves. -/
def unshared : StoreBehaviour Memory where
  Begins k x y := y = x.begin k
  Ends k x r y := x.finish k = (r, y) ∨ (∃ limit, r = .error (k.timedOut limit)) ∧ y = x.abandon
  Stirs x y := y.stored = x.stored

/-- A fetch that succeeds brings what the store holds, and leaves it there. -/
theorem stored_of_finish_fetch {x y : Memory} {c : Configuration}
    (h : x.finish .fetch = (.ok c, y)) : y.stored = some c := by
  obtain ⟨hr, rfl⟩ := Prod.mk.inj h
  cases hf : x.fetchFailures with
  | cons e rest => simp [hf] at hr
  | nil =>
    cases hs : x.stored with
    | none => simp [hf, hs] at hr
    | some d => simp_all [abandon]

end Memory

namespace System

open Journal

/-- Only an idle actor takes a command. -/
theorem phase_of_take? {a : Actor} {r : Actor × List Event} (h : a.take? = some r) :
    a.phase = .idle := by
  rw [Actor.take?] at h
  split at h <;> first | assumption | cases h

/-- Taking a command that calls for nothing leaves the remote configuration as it was. -/
theorem backend?_of_moves {a a' : Actor} {es : List Event} (hm : a.Moves es a')
    (hp : a.phase = .idle) (hp' : a'.phase = .idle ∨ a'.phase = .stopped) :
    a'.state.backend? = a.state.backend? := by
  cases hm with
  | opened h => simp [hp] at h
  | passed h hr => simp [hp] at h
  | settled h hr => simp [hp] at h
  | edited h hq hl hb => exact (State.backend?_compare _ _).trans hb.symm
  | submitted h hq hs => simp at hp'
  | cleared h hq hb => simp at hp'
  | restarted h hq hs => simp at hp'
  | _ => rfl

/-- An answer after which there is a remote configuration has brought it. -/
theorem brings_of_answer {a : Actor} {t : Stage} {r : t.call.Answer} {b : Configuration}
    (hp : (a.answer t r).1.phase = .idle ∨ (a.answer t r).1.phase = .stopped)
    (hb : (a.answer t r).1.state.backend? = some b) : t.Brings r b := by
  rw [Actor.answer] at hp hb
  cases hr : t.resume r with
  | inl t' => simp [hr, Actor.begin] at hp
  | inr o =>
    simp only [hr] at hb
    cases o with
    | error e => cases hb
    | ok c =>
      obtain rfl := Option.some.inj hb
      exact Stage.brings_of_resume hr

/-- **The store holds the remote configuration of the state**, as long as no one else writes. -/
theorem stored_of_backend? {m : Memory} {s : System Memory} (h : Reachable Memory.unshared m s)
    (hp : s.actor.phase = .idle ∨ s.actor.phase = .stopped) {b : Configuration}
    (hb : s.actor.state.backend? = some b) : s.store.stored = some b := by
  induction h generalizing b with
  | refl => simp [initial] at hp
  | tail _ hstep ih =>
    cases hstep with
    | send c hg hh => exact ih hp hb
    | release hh => exact ih hp hb
    | stir hy => exact Eq.trans hy (ih hp hb)
    | start h => simp [adopt, Actor.begin] at hp
    | call h hbegun hy => simp [h] at hp
    | answer h hbegun hy =>
      -- Both fetches that can end an errand well leave the store as they found it.
      have hends : ∀ {r : RemoteCall.fetch.Answer} {x y : Memory}, r = .ok b →
          Memory.unshared.Ends .fetch x r y → y.stored = some b := by
        rintro r x y rfl (hy | ⟨⟨limit, hlimit⟩, -⟩)
        · exact Memory.stored_of_finish_fetch hy
        · cases hlimit
      cases brings_of_answer hp hb with
      | opening => exact hends rfl hy
      | confirming => exact hends rfl hy
    | take hr =>
      have hi := phase_of_take? hr
      have hm := Actor.moves_of_take? hr
      exact ih (.inl hi) ((backend?_of_moves hm hi hp).symm.trans hb)

/-- **The published state is confirmed.** Whenever the actor waits for a command or has stopped,
that is after the first fetch and after every action, its state is established and confirmed by the
last call; so no action ever meets a state that is not. If no one else writes to a store in memory,
the store then holds the remote configuration of the state. -/
theorem published_state_confirmed :
    (∀ {σ : Type} {w : StoreBehaviour σ} {x : σ} {s : System σ}, Reachable w x s →
      (s.actor.phase = .idle ∨ s.actor.phase = .stopped → Confirms s.journal s.actor.state) ∧
      Journal.state s.journal = s.actor.state ∧
      ∀ before a after, s.journal = before ++ .taken a :: after →
        Journal.state before ≠ .uninitialized) ∧
    ∀ {m : Memory} {s : System Memory}, Reachable Memory.unshared m s →
      (s.actor.phase = .idle ∨ s.actor.phase = .stopped) →
      ∀ b, s.actor.state.backend? = some b → s.store.stored = some b := by
  refine ⟨fun h ↦ ⟨fun hp ↦ ?_, (accounted h).1, fun before a after hj ↦ ?_⟩,
    fun h hp b hb ↦ stored_of_backend? h hp hb⟩
  · exact ((accounted h).backs hp).confirms
  · exact (established h).of_cut hj a rfl

/-- A store that was never written is seeded, and a write that comes first after that is accounted
for while it is not submitted. -/
theorem published_state_confirmed_seeded :
    ∃ s : System Memory, Reachable Memory.unshared {} s ∧ s.actor.phase = .idle ∧
      s.actor.state = .diverged { gc := some ∅ } ∅ ∧ Confirms s.journal s.actor.state ∧
      s.store.stored = some ∅ := by
  have h₀ : Reachable Memory.unshared {} (initial {}) := .refl
  have h₁ := h₀.tail (.send (.handle (.change ⟨.gc, true, ∅⟩)) rfl rfl)
  have h₂ := h₁.tail (.start rfl)
  have h₃ := (h₂.tail (.call rfl rfl rfl)).tail (.answer rfl rfl (.inl rfl))
  have h₄ := (h₃.tail (.call rfl rfl rfl)).tail (.answer rfl rfl (.inl rfl))
  have h₅ := (h₄.tail (.call rfl rfl rfl)).tail (.answer rfl rfl (.inl rfl))
  have h₆ := h₅.tail (.take rfl)
  refine ⟨_, h₆, rfl, rfl, (published_state_confirmed.1 h₆).1 (.inl rfl), ?_⟩
  exact published_state_confirmed.2 h₆ (.inl rfl) _ rfl

end System

end TraceReconciler
