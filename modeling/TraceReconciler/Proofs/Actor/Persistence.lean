import TraceReconciler.Proofs.Actor.Agreement
import TraceReconciler.Proofs.Reconcile.Simulation
import TraceReconciler.Proofs.Remote.File

/-!
# A store in a file is as good as one in memory

An actor cannot tell a store in a file from one in memory, as long as no write fails and no one else
writes. The two stores hold the same (`FileStore.Mirrors`), and each answers what the other answers,
so by `State.reconcile_follows` whole runs come to the same, and what holds of the plain run holds
of every interleaving, by `System.faithful`.

**A store in memory without failures never fails** (`Memory.Fits`): between two actions the state
has a remote configuration, and the store holds it. So does the store in the file then, and whoever
starts again from the file finds this configuration (`FileStore.establish_of_holds`).
-/

namespace TraceReconciler

/-- Whether a write has failed. -/
def Event.isFailedWrite : Event → Bool
  | .answered (.push _) (.error _) => true
  | _ => false

/-- The configuration that an errand is to bring, given what the store holds: a store that was never
written is seeded with the empty one. -/
def Errand.goal : Errand → Option Configuration → Configuration
  | .establish, held => held.getD ∅
  | .submit c, _ => c

/-! ### A store in memory that does not fail -/

namespace Memory

/-- No failure waits for a call. -/
def IsUnfailing (m : Memory) : Prop := m.fetchFailures = [] ∧ m.pushFailures = []

/-- The state has a remote configuration, and the store holds it. -/
def Fits (n : State) (m : Memory) : Prop :=
  m.IsUnfailing ∧ ∃ b, n.backend? = some b ∧ m.stored = some b

/-- An errand has come to a good end with a configuration, which the store holds. -/
def Succeeds (c : Configuration) (q : (Stage.Outcome × List Event) × Memory) : Prop :=
  q.1.1 = .ok c ∧ q.2.IsUnfailing ∧ q.2.stored = some c

/-- A run has settled in a configuration, which the store holds. -/
def Settles (c : Configuration) (q : (State × List Event) × Memory) : Prop :=
  q.1.1 = .synchronized c ∧ q.2.IsUnfailing ∧ q.2.stored = some c

variable (latency : Option Nat) {m : Memory}

/-- A fetch brings what is held, and it stays there. -/
theorem untimed_fetch (h : m.IsUnfailing) :
    ∃ m', (Memory.timed latency).untimed .fetch m = (FileStore.reply m.stored, m') ∧
      m'.IsUnfailing ∧ m'.stored = m.stored := by
  obtain ⟨stored, calls, fetchFailures, pushFailures, inFlight, maxInFlight⟩ := m
  obtain ⟨rfl, rfl⟩ := h
  cases stored with
  | none => exact ⟨_, rfl, ⟨rfl, rfl⟩, rfl⟩
  | some c => exact ⟨_, rfl, ⟨rfl, rfl⟩, rfl⟩

/-- What is written is held. -/
theorem untimed_push (h : m.IsUnfailing) (c : Configuration) :
    ∃ m', (Memory.timed latency).untimed (.push c) m = (.ok (), m') ∧
      m'.IsUnfailing ∧ m'.stored = some c := by
  obtain ⟨stored, calls, fetchFailures, pushFailures, inFlight, maxInFlight⟩ := m
  obtain ⟨rfl, rfl⟩ := h
  exact ⟨_, rfl, ⟨rfl, rfl⟩, rfl⟩

/-- A fetch that confirms what is held. -/
theorem succeeds_confirming (h : m.IsUnfailing) {c : Configuration} (hc : m.stored = some c) :
    Succeeds c (Stage.confirming.run (Memory.timed latency).untimed m) := by
  obtain ⟨m', hm', hfine, hstored⟩ := untimed_fetch latency h
  rw [hc] at hm' hstored
  rw [Stage.run_of_inr (t := .confirming) hm' rfl]
  exact ⟨rfl, hfine, hstored⟩

/-- **An errand on a store that does not fail comes to a good end**, with what it was to bring. -/
theorem succeeds_errand (h : m.IsUnfailing) (e : Errand) :
    Succeeds (e.goal m.stored) (e.stage.run (Memory.timed latency).untimed m) := by
  cases e with
  | submit c =>
    obtain ⟨m₁, hm₁, hfine, hstored⟩ := untimed_push latency h c
    rw [Errand.stage, Stage.run_of_inl (t := .submitting c) hm₁ rfl]
    exact succeeds_confirming latency hfine hstored
  | establish =>
    obtain ⟨m₁, hm₁, hfine, hstored⟩ := untimed_fetch latency h
    cases hc : m.stored with
    | some c =>
      rw [hc] at hm₁ hstored
      rw [Errand.stage, Stage.run_of_inr (t := .opening) hm₁ rfl]
      exact ⟨rfl, hfine, hstored⟩
    | none =>
      -- A store that was never written is seeded with the empty configuration.
      rw [hc] at hm₁
      obtain ⟨m₂, hm₂, hfine, hstored⟩ := untimed_push latency hfine ∅
      rw [Errand.stage, Stage.run_of_inl (t := .opening) hm₁ rfl,
        Stage.run_of_inl (t := .seeding) hm₂ rfl]
      exact succeeds_confirming latency hfine hstored

theorem settles_perform (h : m.IsUnfailing) (n : State) (e : Errand) :
    Settles (e.goal m.stored) (n.perform (Memory.timed latency).untimed e m) := by
  obtain ⟨ho, hfine, hstored⟩ := succeeds_errand latency h e
  exact ⟨congrArg State.settle ho, hfine, hstored⟩

theorem fits_perform (h : m.IsUnfailing) (n : State) (e : Errand) :
    Fits (n.perform (Memory.timed latency).untimed e m).1.1
      (n.perform (Memory.timed latency).untimed e m).2 := by
  obtain ⟨hstate, hfine, hstored⟩ := settles_perform latency h n e
  exact ⟨hfine, _, congrArg State.backend? hstate, hstored⟩

/-- **Every action leaves the store holding the remote configuration.** -/
theorem fits_handle {n : State} (h : Fits n m) (a : Action) :
    Fits (n.handle (Memory.timed latency).untimed a m).1.1
      (n.handle (Memory.timed latency).untimed a m).2 := by
  have hreaction := n.reaction a
  generalize ht : n.transition a = t at hreaction
  cases hreaction with
  | ignored =>
    rw [State.handle_of_eq_ignored _ ht]
    exact h
  | edited hl hb =>
    rw [State.handle_of_eq_next _ ht]
    obtain ⟨hfine, b', hb', hstored⟩ := h
    exact ⟨hfine, b', (State.backend?_compare _ _).trans (hb.symm.trans hb'), hstored⟩
  | @submitted l b =>
    rw [State.handle_of_eq_errand _ ht]
    exact fits_perform latency h.1 (.diverged l b) (.submit l)
  | cleared hb =>
    rw [State.handle_of_eq_errand _ ht]
    exact fits_perform latency h.1 n (.submit ∅)
  | restarted =>
    obtain ⟨-, b, hb, -⟩ := h
    cases hb

theorem fits_handleAll {n : State} (h : Fits n m) (as : List Action) :
    Fits (n.handleAll (Memory.timed latency).untimed as m).1.1
      (n.handleAll (Memory.timed latency).untimed as m).2 := by
  induction as generalizing n m with
  | nil => exact h
  | cons a as ih => exact ih (fits_handle latency h a)

theorem fits_reconcile (h : m.IsUnfailing) (as : List Action) :
    Fits (State.reconcile (Memory.timed latency).untimed as m).1.1
      (State.reconcile (Memory.timed latency).untimed as m).2 :=
  fits_handleAll latency (fits_perform latency h .uninitialized .establish) as

end Memory

/-! ### Two stores that hold the same -/

namespace FileStore

variable {path : String} {t : FileTree}

/-- The store in the file holds what the one in memory holds, which does not fail. -/
def Mirrors (path : String) (t : FileTree) (m : Memory) : Prop :=
  Holds path t m.stored ∧ m.IsUnfailing

/-- **The two stores answer alike**, but for writes that fail. -/
theorem alike (path : String) (latency : Option Nat) :
    Remote.Alike (Mirrors path) (fun e ↦ e.isFailedWrite = false) (FileTree.timed path).untimed
      (Memory.timed latency).untimed := by
  rintro k t m ⟨hholds, hfine⟩ hok
  cases k with
  | fetch =>
    have hfetch : (FileTree.timed path).untimed .fetch t = (reply m.stored, t) := fetch_eq hholds
    obtain ⟨m', hm', hfine', hstored⟩ := Memory.untimed_fetch latency hfine
    rw [hfetch, hm']
    exact ⟨rfl, hstored ▸ hholds, hfine'⟩
  | push c =>
    obtain ⟨m', hm', hfine', hstored⟩ := Memory.untimed_push latency hfine c
    rw [hm']
    rcases hpush : (FileTree.timed path).untimed (.push c) t with ⟨f | u, t'⟩
    · rw [hpush] at hok
      cases hok
    · refine ⟨rfl, ?_, hfine'⟩
      rw [hstored]
      exact holds_of_push hpush

/-- **Starting from a file that holds a configuration** finds this configuration, and leaves the
file alone. -/
theorem establish_of_holds {c : Configuration} (h : Holds path t (some c)) :
    State.establish (FileTree.timed path).untimed t =
      ((.synchronized c, [.called .fetch, .answered .fetch (.ok c),
        .published .uninitialized (.synchronized c)]), t) := by
  have hfetch : (FileTree.timed path).untimed .fetch t = (.ok c, t) := fetch_eq h
  exact State.perform_apply (e := .establish) (Stage.run_of_inr (t := .opening) hfetch rfl)

end FileStore

/-! ### Actors -/

namespace System

open Journal

variable {path : String} {latency : Option Nat} {t : FileTree} {held : Option Configuration}

/-- **An actor that starts from a file** is synchronized with what the file holds, and leaves the
file alone. -/
theorem synchronized_of_holds {c : Configuration} (hc : FileStore.Holds path t (some c))
    {s : System FileTree} (h : Reachable (FileTree.timed path).behaviour t s)
    (hp : s.actor.phase = .idle ∨ s.actor.phase = .stopped) (hnone : handled s.journal = []) :
    s.actor.state = .synchronized c ∧ s.store = t := by
  obtain ⟨j, es, -, -, -, hrun⟩ := (faithful h).resting hp
  rw [hnone, State.reconcile_nil, FileStore.establish_of_holds hc] at hrun
  obtain ⟨hstate, hstore⟩ := Prod.mk.inj hrun
  exact ⟨(Prod.mk.inj hstate).1.symm, hstore.symm⟩

/-- An actor that starts from a file that holds a configuration comes to rest. -/
theorem exists_started {c : Configuration} (hc : FileStore.Holds path t (some c)) :
    ∃ r, Reachable (FileTree.timed path).behaviour t r ∧ r.actor.phase = .idle ∧
      handled r.journal = [] := by
  have h₀ : Reachable (FileTree.timed path).behaviour t (initial t) := .refl
  have h₁ := (h₀.tail (.start rfl)).tail (.call rfl rfl rfl)
  have h₂ := h₁.tail (.answer rfl rfl (FileStore.fetch_eq hc))
  exact ⟨_, h₂, rfl, rfl⟩

/-- **A store in a file is as good as one in memory.** Let an actor work on a file that is not
there, or that has any text which is a snapshot of a configuration, and another one on a store in
memory that was never written, or holds this configuration. If both have handled the same actions,
whatever was sent when, and no write of the file has failed, then

* both have published the same states and made the same calls, with the same answers;
* the store in memory holds a configuration, which is the remote one of the state, and the file
  holds the same;
* an actor that is started on the file then comes to rest, and before it has handled anything it is
  synchronized with this configuration. -/
theorem file_mirrors_memory (hheld : FileStore.Holds path t held) {s : System FileTree}
    (h : Reachable (FileTree.timed path).behaviour t s) {s' : System Memory}
    (h' : Reachable (Memory.timed latency).behaviour { stored := held } s')
    (hp : s.actor.phase = .idle ∨ s.actor.phase = .stopped)
    (hp' : s'.actor.phase = .idle ∨ s'.actor.phase = .stopped)
    (hsame : handled s.journal = handled s'.journal)
    (hwrites : s.journal.any Event.isFailedWrite = false) :
    s.actor.state = s'.actor.state ∧ published s.journal = published s'.journal ∧
    traffic s.journal = traffic s'.journal ∧
    ∃ c, s'.store.stored = some c ∧ s'.actor.state.backend? = some c ∧
      FileStore.Holds path s.store (some c) ∧
      (∃ r, Reachable (FileTree.timed path).behaviour s.store r ∧ r.actor.phase = .idle ∧
        handled r.journal = []) ∧
      ∀ {r : System FileTree}, Reachable (FileTree.timed path).behaviour s.store r →
        (r.actor.phase = .idle ∨ r.actor.phase = .stopped) → handled r.journal = [] →
        r.actor.state = .synchronized c := by
  obtain ⟨j, es, hj, hpublished, htraffic, hrun⟩ := (faithful h).resting hp
  obtain ⟨j', es', hj', hpublished', htraffic', hrun'⟩ := (faithful h').resting hp'
  have hunfailing : Memory.IsUnfailing { stored := held } := ⟨rfl, rfl⟩
  have hfits := Memory.fits_reconcile latency hunfailing (handled s'.journal)
  have hfollows := State.reconcile_follows (FileStore.alike path latency) (handled s.journal) t
    { stored := held } ⟨hheld, hunfailing⟩
  rw [hsame] at hrun hfollows
  rw [hrun, hrun'] at hfollows
  rw [hrun'] at hfits
  have hwrites' : ∀ e ∈ j, e.isFailedWrite = false := fun e he ↦
    Bool.eq_false_iff.2 (List.any_eq_false.1 hwrites e (hj ▸ List.mem_append_left es he))
  obtain ⟨heq, hholds, -⟩ := hfollows hwrites'
  obtain ⟨hstate, rfl⟩ := Prod.mk.inj heq
  obtain ⟨-, c, hbackend, hstored⟩ := hfits
  have hfile : FileStore.Holds path s.store (some c) := hstored ▸ hholds
  refine ⟨hstate.symm, ?_, ?_, c, hstored, hbackend, hfile, exists_started hfile,
    fun hr hrest hnone ↦ ?_⟩
  · rw [hj, hj', published_append, published_append, hpublished, hpublished']
  · rw [hj, hj', traffic_append, traffic_append, htraffic, htraffic']
  · exact (synchronized_of_holds hfile hr hrest hnone).1

/-- A tree with one store. -/
def singleStore (c : Configuration) : FileTree :=
  { root := [("store.json", .file (FileStore.encode c))] }

/-- A file that is not there is seeded, and an edit is submitted. The state published last is the
same as with a store in memory, and an actor started on the file finds the edit. -/
theorem file_mirrors_memory_seeded :
    ∃ (s : System FileTree) (s' : System Memory),
      Reachable (FileTree.timed "store.json").behaviour (.bare []) s ∧
      Reachable (Memory.timed none).behaviour {} s' ∧
      s.actor.state = .synchronized { gc := some (.ofList [7]) } ∧
      published s.journal = published s'.journal ∧
      FileStore.Holds "store.json" s.store (some { gc := some (.ofList [7]) }) := by
  let edit : Command := .handle (.change ⟨.gc, true, .ofList [7]⟩)
  let c : Configuration := { gc := some (.ofList [7]) }
  have hbare : FileStore.Holds "store.json" (.bare []) none := rfl
  have hfetch := FileStore.fetch_of_missing hbare
  have hseed : FileStore.push FileTree.access "store.json" ∅ (.bare []) =
    (.ok (), singleStore ∅) := rfl
  have hpush : FileStore.push FileTree.access "store.json" c (singleStore ∅) =
    (.ok (), singleStore c) := rfl
  have h₀ : Reachable (FileTree.timed "store.json").behaviour (.bare []) (initial (.bare [])) :=
    .refl
  have h₁ := ((h₀.tail (.start rfl)).tail (.call rfl rfl rfl)).tail (.answer rfl rfl hfetch)
  have h₂ := ((h₁.tail (.call rfl rfl rfl)).tail (.answer rfl rfl hseed)).tail (.call rfl rfl rfl)
  have h₃ := h₂.tail (.answer rfl rfl (FileStore.fetch_eq (FileStore.holds_of_push hseed)))
  have h₄ := (h₃.tail (.send edit rfl rfl)).tail (.send (.handle .synchronize) rfl rfl)
  have h₅ := ((h₄.tail (.take rfl)).tail (.take rfl)).tail (.call rfl rfl rfl)
  have h₆ := (h₅.tail (.answer rfl rfl hpush)).tail (.call rfl rfl rfl)
  have h₇ := h₆.tail (.answer rfl rfl (FileStore.fetch_eq (FileStore.holds_of_push hpush)))
  have m₀ : Reachable (Memory.timed none).behaviour {} (initial {}) := .refl
  have m₁ := ((m₀.tail (.start rfl)).tail (.call rfl rfl rfl)).tail (.answer rfl rfl rfl)
  have m₂ := ((m₁.tail (.call rfl rfl rfl)).tail (.answer rfl rfl rfl)).tail (.call rfl rfl rfl)
  have m₃ := (m₂.tail (.answer rfl rfl rfl)).tail (.send edit rfl rfl)
  have m₄ := (m₃.tail (.send (.handle .synchronize) rfl rfl)).tail (.take rfl)
  have m₅ := ((m₄.tail (.take rfl)).tail (.call rfl rfl rfl)).tail (.answer rfl rfl rfl)
  have m₆ := (m₅.tail (.call rfl rfl rfl)).tail (.answer rfl rfl rfl)
  obtain ⟨-, hpublished, -, b, hstored, -, hfile, -, -⟩ :=
    file_mirrors_memory hbare h₇ m₆ (.inl rfl) (.inl rfl) rfl rfl
  obtain rfl : c = b := Option.some.inj hstored
  exact ⟨_, _, h₇, m₆, rfl, hpublished, hfile⟩

end System

end TraceReconciler
