import TraceReconciler.Proofs.Actor.Persistence
import TraceReconciler.Proofs.CommandLine.Understanding

/-!
# Invocations, one after another

Each invocation is a run of its own: it starts from what the file holds, makes its change, submits
it and is over. Yet invocations on one store add up as if a single run had handled all requests
(`invocations_add_up`), and one that changes nothing leaves the file alone.

* What an invocation does is what its plan does, from the files that it has found, since to
  understand it is only to read (`Occasion.run_of_understood`).
* A **request** has an effect on a configuration. On a store in memory that does not fail, its
  actions settle in this effect (`settles_reconcile`), and so they do on a file, by
  `State.reconcile_follows`, if no write fails (`Plan.GoesThrough.settles`).
* If there is no effect then the edit is collapsed before it is submitted, and nothing is written
  (`reconcile_of_effect_eq`).
-/

namespace TraceReconciler.CommandLine

open FileStore (Holds)
open TraceReconciler.System (singleStore)

/-! ### What a request does -/

/-- **The configuration after a request**: a change is made, a reset leaves nothing, and to look at
it changes nothing. -/
def Request.effect (r : Request) (c : Configuration) : Configuration :=
  match r with
  | .state => c
  | .options _ => c
  | .change enable x =>
    match x.change enable with
    | .ok e => c.apply e
    | .error _ => c
  | .reset => ∅

/-- The actions of a request are none, an edit that is submitted, or a reset. -/
theorem Request.actions_cases {r : Request} {as : List Action} (h : r.actions = .ok as) :
    (as = [] ∧ r ≠ .reset ∧ ∀ c, r.effect c = c) ∨
    (∃ e, as = [.change e, .synchronize] ∧ ∀ c, r.effect c = c.apply e) ∨
    (as = [.reset] ∧ r = .reset) := by
  cases r with
  | state => exact .inl ⟨(Except.ok.inj h).symm, nofun, fun _ ↦ rfl⟩
  | options pids => exact .inl ⟨(Except.ok.inj h).symm, nofun, fun _ ↦ rfl⟩
  | reset => exact .inr (.inr ⟨(Except.ok.inj h).symm, rfl⟩)
  | change enable x =>
    cases hchange : x.change enable with
    | error e => simp [Request.actions, hchange, bind, Except.bind] at h
    | ok e =>
      simp only [Request.actions, hchange, bind, Except.bind, Except.ok.injEq] at h
      exact .inr (.inl ⟨e, h.symm, fun c ↦ by simp [Request.effect, hchange]⟩)

section

variable {m : Memory} {r : Request} {as : List Action} {c : Configuration}

/-- A submission on a store that does not fail leaves the local configuration in it, whether or not
there was anything to be written. -/
theorem settles_submission (hm : m.IsUnfailing) {l : Configuration} (hc : m.stored = some c) :
    Memory.Settles l
      ((State.compare l c).handle (Memory.timed none).untimed .synchronize m) := by
  by_cases h : l = c
  · rw [h, State.compare_self, State.handle_of_eq_ignored _ rfl]
    exact ⟨rfl, hm, hc⟩
  · rw [State.compare_of_ne h, State.handle_of_eq_errand _ rfl]
    exact Memory.settles_perform none hm (.diverged l c) (.submit l)

theorem settles_handleAll (h : r.actions = .ok as) (hm : m.IsUnfailing) (hc : m.stored = some c) :
    Memory.Settles (r.effect c)
      ((State.synchronized c).handleAll (Memory.timed none).untimed as m) := by
  rcases r.actions_cases h with ⟨rfl, -, heffect⟩ | ⟨e, rfl, heffect⟩ | ⟨rfl, rfl⟩
  · rw [heffect]
    exact ⟨rfl, hm, hc⟩
  · have hedit := State.handle_of_eq_next (Memory.timed none).untimed
      (State.transition_compare c c e)
    rw [State.compare_self] at hedit
    rw [heffect, State.handleAll, hedit]
    exact settles_submission hm hc
  · rw [State.handleAll, State.handle_of_eq_errand _ rfl]
    exact Memory.settles_perform none hm (.synchronized c) (.submit ∅)

/-- **On a store that does not fail, a request settles in its effect** on what the store held. -/
theorem settles_reconcile (h : r.actions = .ok as) (hm : m.IsUnfailing) :
    Memory.Settles (r.effect (m.stored.getD ∅))
      (State.reconcile (Memory.timed none).untimed as m) := by
  obtain ⟨hstate, hfine, hstored⟩ := Memory.settles_perform none hm .uninitialized .establish
  show Memory.Settles _ ((State.establish (Memory.timed none).untimed m).1.1.handleAll
    (Memory.timed none).untimed as (State.establish (Memory.timed none).untimed m).2)
  rw [State.establish, hstate]
  exact settles_handleAll h hfine hstored

end

section

variable {path : String} {t t' : FileTree} {c : Configuration}

/-- **A request that changes nothing writes nothing**, where the file holds a configuration. -/
theorem reconcile_of_effect_eq (hheld : Holds path t (some c)) {r : Request} {as : List Action}
    (h : r.actions = .ok as) (hr : r ≠ .reset) (hc : r.effect c = c) :
    ∃ es, State.reconcile (FileStore.remote FileTree.access path) as t =
      ((.synchronized c, es), t) ∧ ∀ e ∈ es, e.isFailedWrite = false := by
  have hestablish := FileStore.establish_of_holds hheld
  rcases r.actions_cases h with ⟨rfl, -, -⟩ | ⟨e, rfl, heffect⟩ | ⟨-, rfl⟩
  · refine ⟨_, State.reconcile_apply hestablish State.handleAll_nil_apply, ?_⟩
    simp [Event.isFailedWrite]
  · -- The edit is collapsed at once, so that there is nothing to be submitted.
    have hedit := State.handle_of_eq_next (FileStore.remote FileTree.access path)
      (State.transition_compare c c e)
    rw [← heffect, hc, State.compare_self] at hedit
    have hnone := State.handle_of_eq_ignored (FileStore.remote FileTree.access path)
      (s := .synchronized c) (a := .synchronize) rfl
    have hall := State.handleAll_cons_apply (congrFun hedit t)
      (State.handleAll_cons_apply (congrFun hnone t) State.handleAll_nil_apply)
    refine ⟨_, State.reconcile_apply hestablish hall, ?_⟩
    simp [Event.isFailedWrite]
  · exact absurd rfl hr

/-- **A change is submitted with one write**, and if that does not fail then nothing does. -/
theorem reconcile_of_push (hheld : Holds path t (some c)) {e : Change} (hne : c.apply e ≠ c)
    (hpush : FileStore.push FileTree.access path (c.apply e) t = (.ok (), t')) :
    ∃ es, State.reconcile (FileStore.remote FileTree.access path) [.change e, .synchronize] t =
      ((.synchronized (c.apply e), es), t') ∧ ∀ e ∈ es, e.isFailedWrite = false := by
  have hedit := State.handle_of_eq_next (FileStore.remote FileTree.access path)
    (State.transition_compare c c e)
  rw [State.compare_self, State.compare_of_ne hne] at hedit
  have hfetch : FileStore.remote FileTree.access path .fetch t' = (.ok (c.apply e), t') :=
    FileStore.fetch_eq (FileStore.holds_of_push hpush)
  have hwrite : FileStore.remote FileTree.access path (.push (c.apply e)) t = (.ok (), t') := hpush
  have hrun := Stage.run_of_inl (t := .submitting (c.apply e)) hwrite rfl
  rw [Stage.run_of_inr (t := .confirming) (o := .ok (c.apply e)) hfetch rfl] at hrun
  have hsubmit := State.handle_apply (s := .diverged (c.apply e) c) (a := .synchronize)
    (e := .submit (c.apply e)) rfl hrun
  have hall := State.handleAll_cons_apply (congrFun hedit t)
    (State.handleAll_cons_apply hsubmit State.handleAll_nil_apply)
  refine ⟨_, State.reconcile_apply (FileStore.establish_of_holds hheld) hall, ?_⟩
  simp [Event.isFailedWrite, Stage.start, Stage.call]

end

/-! ### Doing what was planned -/

namespace Plan

/-- The run of a plan, without a limit. -/
def reconciled (p : Plan) : StateM FileTree (State × List Event) :=
  State.reconcile (FileStore.remote FileTree.access p.settings.storePath) p.actions

/-- A limit that gives a call any time at all is no limit where nothing takes time. -/
theorem perform_eq {p : Plan} (hlimit : p.settings.remoteTimeout ≠ some 0)
    (known : List (String × String)) (t : FileTree) :
    p.perform (treePlatform known) t =
      (p.request.report (p.reconciled t).1.1, (p.reconciled t).2) := by
  have hwithin : (FileStore.remote FileTree.access p.settings.storePath).within
      (treePlatform known).bound p.settings.remoteTimeout =
        FileStore.remote FileTree.access p.settings.storePath := by
    funext k
    cases hd : p.settings.remoteTimeout with
    | none => rfl
    | some d =>
      have hpos : d ≠ 0 := fun hzero ↦ hlimit (hzero ▸ hd)
      simp only [Remote.within, treePlatform, if_neg hpos]
      rfl
  simp only [perform]
  rw [show FileStore.remote (treePlatform known).files = FileStore.remote FileTree.access from rfl,
    hwithin]
  split <;> rfl

/-- **A plan goes through** on a store: the store of its settings is this one, before and after, its
calls have time, and no write fails. -/
structure GoesThrough (p : Plan) (path : String) (t : FileTree) : Prop where
  same : t.target p.settings.storePath = t.target path
  sameAfter : (p.reconciled t).2.target p.settings.storePath = (p.reconciled t).2.target path
  timely : p.settings.remoteTimeout ≠ some 0
  written : ∀ e ∈ (p.reconciled t).1.2, e.isFailedWrite = false

variable {p : Plan} {path : String} {t : FileTree} {held : Option Configuration}

/-- **A plan that goes through settles in the effect of its request**, and the store holds it. -/
theorem GoesThrough.settles (h : p.GoesThrough path t) (hheld : Holds path t held)
    (hactions : p.request.actions = .ok p.actions) :
    (p.reconciled t).1.1 = .synchronized (p.request.effect (held.getD ∅)) ∧
      Holds path (p.reconciled t).2 (some (p.request.effect (held.getD ∅))) := by
  have hunfailing : Memory.IsUnfailing { stored := held } := ⟨rfl, rfl⟩
  obtain ⟨hstate, -, hstored⟩ := settles_reconcile hactions hunfailing
  obtain ⟨heq, hholds, -⟩ := State.reconcile_follows (FileStore.alike p.settings.storePath none)
    p.actions t { stored := held } ⟨hheld.of_target_eq h.same, hunfailing⟩ h.written
  rw [hstored] at hholds
  exact ⟨(congrArg Prod.fst heq).symm.trans hstate, hholds.of_target_eq h.sameAfter.symm⟩

end Plan

/-! ### One invocation after another -/

/-- **An invocation as it is made**: with some variables set, with paths at which an environment
file is looked for, and with arguments. -/
structure Occasion where
  known : List (String × String)
  environmentFiles : List String
  arguments : List String

namespace Occasion

/-- What is understood of an invocation. -/
def understood (o : Occasion) : StateM FileTree (Except Refusal Plan) :=
  understand (treePlatform o.known) o.environmentFiles o.arguments

/-- The invocation is run. -/
def run (o : Occasion) : StateM FileTree Report :=
  CommandLine.run (treePlatform o.known) o.environmentFiles o.arguments

/-- The request that the arguments make. -/
def request? (o : Occasion) : Option Request :=
  (Invocation.ofArguments o.arguments).toOption.map Invocation.request

/-- **An invocation is accepted** on a store: there is a plan, and it goes through. -/
def Accepted (o : Occasion) (path : String) (t : FileTree) : Prop :=
  ∃ p, (o.understood t).1 = .ok p ∧ p.GoesThrough path t

variable {o : Occasion} {path : String} {t : FileTree} {held : Option Configuration}

theorem run_of_understood {p : Plan} (h : (o.understood t).1 = .ok p)
    (hlimit : p.settings.remoteTimeout ≠ some 0) :
    o.run t = (p.request.report (p.reconciled t).1.1, (p.reconciled t).2) := by
  have hpure : o.understood t = (.ok p, t) :=
    Prod.ext h (leavesAlone_understand o.known o.environmentFiles o.arguments t)
  rw [run, run_apply hpure]
  exact Plan.perform_eq hlimit o.known t

/-- **What an accepted invocation comes to**: it exits with success, the store holds the effect of
its request, and unless it is a reset it touches nothing if there is no effect. -/
theorem Accepted.run (h : o.Accepted path t) (hheld : Holds path t held) :
    ∃ r, o.request? = some r ∧ (o.run t).1.exitCode = 0 ∧
      Holds path (o.run t).2 (some (r.effect (held.getD ∅))) ∧
      ∀ c, held = some c → r ≠ .reset → r.effect c = c → (o.run t).2 = t := by
  obtain ⟨p, hp, hgoes⟩ := h
  obtain ⟨invocation, hinvocation, hrequest, hactions⟩ := understand_eq_ok hp
  rw [← hrequest] at hactions
  obtain ⟨hstate, hholds⟩ := hgoes.settles hheld hactions
  rw [run_of_understood hp hgoes.timely]
  refine ⟨p.request, ?_, ?_, hholds, fun c hc hr heffect ↦ ?_⟩
  · rw [request?, hinvocation, hrequest]
    rfl
  · rw [hstate]
    rfl
  · rw [hc] at hheld
    obtain ⟨es, hes, -⟩ :=
      reconcile_of_effect_eq (hheld.of_target_eq hgoes.same) hactions hr heffect
    exact congrArg Prod.snd hes

end Occasion

/-- The tree after some invocations. -/
def after (t : FileTree) (os : List Occasion) : FileTree := os.foldl (fun t o ↦ (o.run t).2) t

/-- The configuration after the requests of some invocations, one after the other. -/
def fold (c : Configuration) (os : List Occasion) : Configuration :=
  (os.filterMap Occasion.request?).foldl (fun c r ↦ r.effect c) c

/-- Each of some invocations is accepted when it is its turn. -/
def AllAccepted (path : String) : FileTree → List Occasion → Prop
  | _, [] => True
  | t, o :: os => o.Accepted path t ∧ AllAccepted path (o.run t).2 os

theorem fold_cons {o : Occasion} {r : Request} (h : o.request? = some r) (c : Configuration)
    (os : List Occasion) : fold c (o :: os) = fold (r.effect c) os := by
  rw [fold, List.filterMap_cons_some h]
  rfl

theorem after_concat (t : FileTree) (os : List Occasion) (o : Occasion) :
    after t (os ++ [o]) = (o.run (after t os)).2 := List.foldl_append

/-- **Invocations add up.** Let invocations be made one after another on a store that is not there,
or that has any text which is a snapshot of a configuration, each of them accepted when it is its
turn. Then each exits with success, and leaves the store with the text of a snapshot of the
configuration to which all requests so far lead from the one at the start; and one that is no reset
and leads to the configuration that was there before leaves all files as they are, if there was a
store. -/
theorem invocations_add_up {path : String} {t : FileTree} {held : Option Configuration}
    (hheld : Holds path t held) {before rest : List Occasion} {o : Occasion}
    (h : AllAccepted path t (before ++ o :: rest)) :
    (o.run (after t before)).1.exitCode = 0 ∧
    Holds path (after t (before ++ [o])) (some (fold (held.getD ∅) (before ++ [o]))) ∧
    ((after t before).read path ≠ .error .missing → o.request? ≠ some .reset →
      fold (held.getD ∅) (before ++ [o]) = fold (held.getD ∅) before →
      after t (before ++ [o]) = after t before) := by
  induction before generalizing t held with
  | nil =>
    obtain ⟨r, hr, hexit, hholds, hsame⟩ := h.1.run hheld
    rw [List.nil_append, fold_cons hr]
    refine ⟨hexit, hholds, fun hthere hreset heffect ↦ ?_⟩
    cases held with
    | none => exact absurd hheld hthere
    | some c => exact hsame c rfl (fun hr' ↦ hreset (hr' ▸ hr)) heffect
  | cons x before ih =>
    obtain ⟨hx, hrest⟩ := h
    obtain ⟨r, hr, -, hholds, -⟩ := hx.run hheld
    rw [List.cons_append, fold_cons hr, fold_cons hr]
    exact ih hholds hrest

/-- A feature is switched on twice. The second invocation finds it on, and touches nothing. -/
theorem invocations_add_up_repeated :
    let o : Occasion :=
      { known := [], environmentFiles := [".env"]
        arguments := ["--store", "store.json", "enable", "gc", "7"] }
    let c : Configuration := { gc := some (.ofList [7]) }
    AllAccepted "store.json" (singleStore ∅) [o, o] ∧
      (o.run (after (singleStore ∅) [o])).1.exitCode = 0 ∧
      Holds "store.json" (after (singleStore ∅) [o, o]) (some c) ∧
      after (singleStore ∅) [o, o] = after (singleStore ∅) [o] := by
  intro o c
  let x : ChangeRequest := { slot := .gc, pids := [7] }
  let e : Change := ⟨.gc, true, .ofList [7]⟩
  let p : Plan := ⟨{ storePath := "store.json" }, .change true x, [.change e, .synchronize]⟩
  have hparse : Invocation.ofArguments ["--store", "store.json", "enable", "gc", "7"] =
    .ok ⟨some "store.json", .change true { slot := .gc, pids := [7] }⟩ := by decide +kernel
  have hunderstood {t : FileTree} (henv : t.read ".env" = .error .missing) :
      (o.understood t).1 = .ok p := by
    rw [Occasion.understood, understand_apply (loadVariables_of_missing henv) hparse]
    rfl
  have hread (b : Configuration) :
    (singleStore b).read "store.json" = .ok (FileStore.encode b) := rfl
  have hholds (b : Configuration) : Holds "store.json" (singleStore b) (some b) :=
    ⟨_, _, hread b, Snapshot.ofText_prettyText b, rfl⟩
  -- The first invocation writes the store.
  obtain ⟨es, hrun, hwritten⟩ : ∃ es, p.reconciled (singleStore ∅) =
      ((.synchronized c, es), singleStore c) ∧ ∀ e ∈ es, e.isFailedWrite = false :=
    reconcile_of_push (hholds ∅) (by decide) rfl
  have hfirst : p.GoesThrough "store.json" (singleStore ∅) := ⟨rfl, rfl, nofun, by rwa [hrun]⟩
  have hafter : (o.run (singleStore ∅)).2 = singleStore c := by
    rw [o.run_of_understood (hunderstood rfl) hfirst.timely, hrun]
  -- The second one has nothing to write.
  obtain ⟨es', hrun', hwritten'⟩ : ∃ es, p.reconciled (singleStore c) =
      ((.synchronized c, es), singleStore c) ∧ ∀ e ∈ es, e.isFailedWrite = false :=
    reconcile_of_effect_eq (hholds c) (r := p.request) rfl nofun (by decide)
  have hsecond : p.GoesThrough "store.json" (singleStore c) := ⟨rfl, rfl, nofun, by rwa [hrun']⟩
  have hrest : AllAccepted "store.json" (singleStore c) [o] :=
    ⟨⟨p, hunderstood rfl, hsecond⟩, trivial⟩
  have hall : AllAccepted "store.json" (singleStore ∅) ([o] ++ o :: []) :=
    ⟨⟨p, hunderstood rfl, hfirst⟩, (congrArg (AllAccepted "store.json" · [o]) hafter).mpr hrest⟩
  have hrequest : o.request? = some (.change true x) := by
    rw [Occasion.request?, hparse]
    rfl
  have hthere : (after (singleStore ∅) [o]).read "store.json" ≠ .error .missing := by
    have hone : after (singleStore ∅) [o] = singleStore c :=
      (after_concat (singleStore ∅) [] o).trans hafter
    rw [hone, hread c]
    nofun
  have honce : fold ∅ [o] = c := (fold_cons hrequest ∅ []).trans (by decide)
  have htwice : fold ∅ [o, o] = c :=
    (fold_cons hrequest ∅ [o]).trans ((fold_cons hrequest _ []).trans (by decide))
  obtain ⟨hexit, hstored, hsame⟩ := invocations_add_up (hholds ∅) hall
  refine ⟨hall, hexit, htwice ▸ hstored, hsame hthere ?_ (htwice.trans honce.symm)⟩
  rw [hrequest]
  nofun

end TraceReconciler.CommandLine
