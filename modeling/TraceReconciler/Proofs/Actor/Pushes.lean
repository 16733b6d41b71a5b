import TraceReconciler.Proofs.Actor.Confirmation

/-!
# What is written to the store

An actor writes for three reasons only, and each of them fixes what it writes (`Journal.Licensed`).
The journal before the write shows the reason:

* **seeding**: the state is being established, and the fetch just answered has found nothing;
* **resetting**: a reset has just been taken in a state that has a remote configuration;
* **submitting**: a submission has just been taken, and what is written is what the last call has
  fetched with all edits taken since, in the order in which they were taken.

That nothing is lost, duplicated, reordered or kept over a failure is the last point: the edits are
read off the journal, not off the state, and the last call must be a fetch that has succeeded.
-/

namespace TraceReconciler

/-- A remote configuration is there in the synchronized and in the diverged state only. -/
theorem State.isSynchronized_or_isPending {s : State} {b : Configuration}
    (h : s.backend? = some b) : s.isSynchronized ∨ s.isPending := by
  cases s with
  | synchronized c => exact .inl rfl
  | diverged l b => exact .inr rfl
  | _ => cases h

namespace Journal

/-- What an actor is about to write is what it has a reason to write. -/
inductive Licensed : List Event → Configuration → Prop
  /-- The store was never written. -/
  | seed {before : List Event} (h : System.Opens before) :
      Licensed (before ++ [.called .fetch, .answered .fetch (.error .notFound), .seeding]) ∅
  /-- A reset was taken. -/
  | reset {before : List Event} (h : (state before).isSynchronized ∨ (state before).isPending) :
      Licensed (before ++ [.taken .reset]) ∅
  /-- A submission was taken. -/
  | submit {before since : List Event} {b : Configuration}
      (h : LastCall before .fetch (.ok b) since) (hne : b.applyAll (edits since) ≠ b) :
      Licensed (before ++ [.taken .synchronize]) (b.applyAll (edits since))

/-- If an event starts to write a configuration, there is a reason to. -/
def LicensedEvent (past : List Event) (e : Event) : Prop :=
  ∀ c, e.pushed? = some c → Licensed past c

theorem licensed_of_pushes_nil {past es : List Event} (h : pushes es = []) :
    Throughout LicensedEvent past es := by
  refine .of_filterMap_eq_nil h fun p e he c hc ↦ ?_
  rw [he] at hc
  cases hc

/-- Of some events only the last one writes. -/
theorem licensed_concat_push {past : List Event} (es : List Event) {c : Configuration}
    (hes : pushes es = []) (h : Licensed (past ++ es) c) :
    Throughout LicensedEvent past (es ++ [.called (.push c)]) := by
  refine throughout_append.2 ⟨licensed_of_pushes_nil hes, ?_, trivial⟩
  intro d hd
  obtain rfl := Option.some.inj hd
  exact h

end Journal

namespace System

open Journal

theorem licensed_moves {j es : List Event} {a a' : Actor} (hm : a.Moves es a')
    (h : Accounted j a) : Throughout LicensedEvent j es := by
  cases hm with
  | passed hp hr =>
    obtain ⟨before, rfl, hopens⟩ := h.exists_called hp
    cases Stage.leads_of_resume hr with
    | unwritten =>
      have hseed := Licensed.seed (hopens rfl)
      refine licensed_concat_push [.answered .fetch (.error .notFound), .seeding] rfl ?_
      rwa [List.append_assoc]
    | seeded => exact licensed_of_pushes_nil rfl
    | submitted c => exact licensed_of_pushes_nil rfl
  | submitted hp hq hs =>
    have hbacks := h.backs (.inl hp)
    rw [hs] at hbacks
    obtain ⟨since, hlast, rfl, hne⟩ := hbacks
    exact licensed_concat_push [.taken .synchronize] rfl (.submit hlast hne)
  | cleared hp hq hb =>
    refine licensed_concat_push [.taken .reset] rfl (.reset ?_)
    rw [h.1]
    exact State.isSynchronized_or_isPending hb
  | _ => exact licensed_of_pushes_nil rfl

variable {σ : Type} {w : StoreBehaviour σ} {x : σ} {s : System σ}

theorem licensed (h : Reachable w x s) : Throughout LicensedEvent [] s.journal := by
  refine (invariant (P := fun _ j a ↦ Accounted j a ∧ Throughout LicensedEvent [] j)
    ⟨⟨rfl, rfl⟩, trivial⟩ (fun _ _ h ↦ h) (fun h ↦ h) (fun hm h ↦ ?_) h).2
  exact ⟨accounted_moves hm h.1, throughout_append.2 ⟨h.2, licensed_moves hm h.1⟩⟩

/-- **Everything that is written is licensed.** Whatever the store answers and whenever commands are
sent, the actor handles the actions in the order in which they were sent, and each configuration
that it writes is the empty one, to seed a store that was never written or for a reset, or else, for
a submission, what the last call has fetched with exactly the edits handled since, which is another
configuration than the one fetched. -/
theorem pushed_licensed (h : Reachable w x s) :
    handled s.journal <+: due s.sent ∧
    ∀ before c after, s.journal = before ++ .called (.push c) :: after → Licensed before c := by
  refine ⟨handled_prefix_due h, ?_⟩
  intro before c after hj
  exact (licensed h).of_cut hj c rfl

/-- Two edits, of which the second one takes back a part of the first, are written as one. -/
theorem pushed_licensed_submission :
    ∃ (s : System Memory) (before : List Event),
      Reachable Memory.unshared (.ofConfiguration ∅) s ∧
      s.journal = before ++ [.called (.push { gc := some (.ofList [7]) })] ∧
      Licensed before { gc := some (.ofList [7]) } := by
  have h₀ : Reachable Memory.unshared (.ofConfiguration ∅) (initial (.ofConfiguration ∅)) := .refl
  have h₁ := h₀.tail (.send (.handle (.change ⟨.gc, true, .ofList [5, 7]⟩)) rfl rfl)
  have h₂ := ((h₁.tail (.start rfl)).tail (.call rfl rfl rfl)).tail (.answer rfl rfl (.inl rfl))
  have h₃ := h₂.tail (.send (.handle (.change ⟨.gc, false, .ofList [5]⟩)) rfl rfl)
  have h₄ := h₃.tail (.send (.handle .synchronize) rfl rfl)
  have h₅ := ((h₄.tail (.take rfl)).tail (.take rfl)).tail (.take rfl)
  let first : Configuration := { gc := some (.ofList [5, 7]) }
  let second : Configuration := { gc := some (.ofList [7]) }
  refine ⟨_, [.called .fetch, .answered .fetch (.ok ∅), .published .uninitialized (.synchronized ∅),
    .taken (.change ⟨.gc, true, .ofList [5, 7]⟩),
    .published (.synchronized ∅) (.diverged first ∅),
    .taken (.change ⟨.gc, false, .ofList [5]⟩),
    .published (.diverged first ∅) (.diverged second ∅), .taken .synchronize], h₅, ?_, ?_⟩
  · rfl
  · exact (pushed_licensed h₅).2 _ _ [] rfl

end System

end TraceReconciler
