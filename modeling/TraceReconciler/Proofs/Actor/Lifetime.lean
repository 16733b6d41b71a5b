import TraceReconciler.Proofs.Actor.Traffic

/-!
# The lifetime of a store

A store outlives the actors that work on it: one session comes after another, and a session may end
at any moment, with a call outstanding or not. A **lifetime** is what all sessions so far have done
to a store in memory. Others may make calls fail in any way but one: no one says of a store that was
written that it was not.

To seed a store is the only way in which something is written that no one has asked for. It destroys
nothing, and in the whole lifetime it succeeds once at most (`Lifetime.seeding_spares`):

* while the call that seeds is outstanding the store holds nothing, since it was the store itself
  that answered the fetch before, and no one else writes (`Lifetime.Spared`);
* a store that was seeded holds a configuration from then on, so the same answer never comes again.

What ends a session is not looked at: the call that was outstanding is given up, which changes
nothing, and the next actor starts with a fetch like any other.
-/

namespace TraceReconciler

open Relation

/-- Whether an event is the good answer to a write. -/
def Event.isWrite : Event → Bool
  | .answered (.push _) (.ok _) => true
  | _ => false

namespace Journal

/-- Whether the last thing that happened is the call that seeds a store. -/
def awaitsSeed (j : List Event) : Bool :=
  match j.reverse with
  | .called _ :: .seeding :: _ => true
  | _ => false

/-- How often a store was seeded with success. -/
def seedings (j : List Event) : Nat := tally (fun past e ↦ awaitsSeed past && e.isWrite) [] j

/-- What is counted in events with no good answer to a write is nothing. -/
theorem tally_of_isWrite_eq_false (past : List Event) {es : List Event}
    (h : ∀ e ∈ es, e.isWrite = false) :
    tally (fun past e ↦ awaitsSeed past && e.isWrite) past es = 0 := by
  induction es generalizing past with
  | nil => rfl
  | cons e es ih =>
    rw [tally, h e List.mem_cons_self, Bool.and_false,
      ih _ fun x hx ↦ h x (List.mem_cons_of_mem e hx)]
    rfl

theorem seedings_append_of_isWrite_eq_false (j : List Event) {es : List Event}
    (h : ∀ e ∈ es, e.isWrite = false) : seedings (j ++ es) = seedings j := by
  rw [seedings, tally_append, tally_of_isWrite_eq_false _ h]
  rfl

/-- An answer counts if it is a good one to a write and the store waits to be seeded. -/
theorem seedings_append_cons (j : List Event) (e : Event) {es : List Event}
    (h : ∀ x ∈ es, x.isWrite = false) :
    seedings (j ++ e :: es) = seedings j + (awaitsSeed j && e.isWrite).toNat := by
  rw [seedings, tally_append, tally, tally_of_isWrite_eq_false _ h]
  rfl

end Journal

namespace Stage

theorem isWrite_of_mem_start {t : Stage} {e : Event} (h : e ∈ t.start) : e.isWrite = false := by
  cases t <;> simp [start] at h <;> rcases h with rfl | rfl <;> rfl

end Stage

namespace System

open Journal

/-! ### Calls that write -/

/-- **Why a write is outstanding**: the store is being seeded, or an action has asked for it. -/
def Poised (j : List Event) (a : Actor) : Prop :=
  match a.phase with
  | .calling .seeding => ∃ before, j = before ++ [.seeding, .called (.push ∅)]
  | .calling (.submitting c) => ∃ before x, (x = .synchronize ∨ x = .reset) ∧
      j = before ++ [.taken x, .called (.push c)]
  | _ => True

theorem poised_moves {j es : List Event} {a a' : Actor} (hm : a.Moves es a') :
    Poised (j ++ es) a' := by
  cases hm with
  | passed hp hr =>
    cases Stage.leads_of_resume hr with
    | unwritten => exact ⟨j ++ [.answered .fetch (.error .notFound)], by simp [Stage.start]⟩
    | seeded => trivial
    | submitted c => trivial
  | submitted hp hq hs => exact ⟨j, _, .inl rfl, rfl⟩
  | cleared hp hq hb => exact ⟨j, _, .inr rfl, rfl⟩
  | _ => trivial

variable {σ : Type} {w : StoreBehaviour σ} {x : σ} {s : System σ}

theorem poised (h : Reachable w x s) : Poised s.journal s.actor :=
  invariant (P := fun _ ↦ Poised) trivial (fun _ _ h ↦ h) (fun h ↦ h)
    (fun hm _ ↦ poised_moves hm) h

theorem exists_of_seeding (h : Reachable w x s) (hp : s.actor.phase = .calling .seeding) :
    ∃ before, s.journal = before ++ [.seeding, .called (.push ∅)] := by
  have hpoised := poised h
  rw [Poised, hp] at hpoised
  exact hpoised

theorem exists_of_submitting (h : Reachable w x s) {c : Configuration}
    (hp : s.actor.phase = .calling (.submitting c)) :
    ∃ before a, (a = .synchronize ∨ a = .reset) ∧
      s.journal = before ++ [.taken a, .called (.push c)] := by
  have hpoised := poised h
  rw [Poised, hp] at hpoised
  exact hpoised

/-- A state that is confirmed is confirmed by an answer, after which no call was made. -/
theorem not_called_of_lastCall {j : List Event} {k k' : RemoteCall} {r : k.Answer}
    {since before : List Event} (h : LastCall j k r since) : j ≠ before ++ [.called k'] := by
  intro hj
  obtain rfl := List.suffix_nil.1 (h.suffix (q := []) hj rfl)
  obtain ⟨-, earlier, hlast⟩ := h
  simpa [hj] using congrArg List.getLast? hlast

/-- **A write is outstanding in two stages only.** -/
theorem phase_of_called (h : Reachable w x s) {before : List Event} {c : Configuration}
    (hj : s.journal = before ++ [.called (.push c)]) :
    s.actor.phase = .calling .seeding ∧ c = ∅ ∨ s.actor.phase = .calling (.submitting c) := by
  have haccounted := accounted h
  cases hp : s.actor.phase with
  | waiting =>
    have hnil := haccounted.2
    simp only [hp] at hnil
    simp [hnil] at hj
  | calling t =>
    obtain ⟨before', hcalled, -⟩ := haccounted.exists_called hp
    obtain ⟨-, hcall⟩ := List.append_inj' (hcalled.symm.trans hj) rfl
    cases t with
    | opening => simp at hcall
    | seeding =>
      obtain rfl : ∅ = c := by simpa using hcall
      exact .inl ⟨rfl, rfl⟩
    | submitting d =>
      obtain rfl : d = c := by simpa using hcall
      exact .inr rfl
    | confirming => simp at hcall
  | killed =>
    have hfalse := haccounted.2
    simp only [hp] at hfalse
  | _ =>
    -- At rest the last call is answered.
    have hconfirms := (haccounted.backs (by simp [hp])).confirms
    cases hstate : s.actor.state with
    | uninitialized => simp [hstate, Confirms] at hconfirms
    | error e =>
      rw [hstate] at hconfirms
      obtain ⟨k, since, hlast⟩ := hconfirms
      exact absurd hj (not_called_of_lastCall hlast)
    | _ =>
      rw [hstate] at hconfirms
      obtain ⟨since, hlast⟩ := hconfirms
      exact absurd hj (not_called_of_lastCall hlast)

/-- An idle actor gets no answer. -/
theorem isWrite_of_moves {a a' : Actor} {es : List Event} (hm : a.Moves es a')
    (hp : a.phase = .idle) : ∀ e ∈ es, e.isWrite = false := by
  cases hm <;> simp_all [Event.isWrite]

/-- The events of an answer are the answer and some that are no answers. -/
theorem exists_events_of_answer (a : Actor) {t : Stage} (r : t.call.Answer) :
    ∃ es, (a.answer t r).2 = .answered t.call r :: es ∧ ∀ e ∈ es, e.isWrite = false := by
  rw [Actor.answer]
  cases t.resume r with
  | inl t' => exact ⟨t'.start, rfl, fun e he ↦ Stage.isWrite_of_mem_start he⟩
  | inr o =>
    refine ⟨_, rfl, fun e he ↦ ?_⟩
    obtain rfl := List.mem_singleton.1 he
    rfl

/-- No command makes an idle actor seed a store: a fetch comes first. -/
theorem phase_ne_seeding_of_moves {a a' : Actor} {es : List Event} (hm : a.Moves es a')
    (hp : a.phase = .idle) : a'.phase ≠ .calling .seeding := by
  cases hm <;> simp_all [Actor.rest]

end System

namespace Memory

/-! ### A store of which no one says that it was not written -/

/-- **A store in memory that no one else writes to**, and whose fetches no one makes fail for want
of a configuration. A call may be given up before it is finished. -/
def spared : StoreBehaviour Memory where
  Begins := unshared.Begins
  Ends := unshared.Ends
  Stirs x y := y.stored = x.stored ∧ .notFound ∉ y.fetchFailures

variable {x y : Memory}

/-- A fetch leaves what is stored alone, whether it is finished or given up. -/
theorem stored_of_ends_fetch {r : RemoteCall.fetch.Answer} (h : spared.Ends .fetch x r y) :
    y.stored = x.stored := by
  obtain ⟨stored, calls, fetchFailures, pushFailures, inFlight, maxInFlight⟩ := x
  rcases h with h | ⟨-, rfl⟩
  · obtain ⟨-, rfl⟩ := Prod.mk.inj h
    cases fetchFailures with
    | cons e rest => rfl
    | nil => cases stored <;> rfl
  · rfl

/-- A write takes place if it is answered so, and otherwise has no effect. -/
theorem stored_of_ends_push {c : Configuration} {r : (RemoteCall.push c).Answer}
    (h : spared.Ends (.push c) x r y) :
    r = .ok () ∧ y.stored = some c ∨ (∃ e, r = .error e) ∧ y.stored = x.stored := by
  obtain ⟨stored, calls, fetchFailures, pushFailures, inFlight, maxInFlight⟩ := x
  rcases h with h | ⟨⟨limit, rfl⟩, rfl⟩
  · obtain ⟨rfl, rfl⟩ := Prod.mk.inj h
    cases pushFailures with
    | cons e rest => exact .inr ⟨⟨e, rfl⟩, rfl⟩
    | nil => exact .inl ⟨rfl, rfl⟩
  · exact .inr ⟨⟨_, rfl⟩, rfl⟩

/-- Only a store that holds nothing says so. -/
theorem stored_of_ends_notFound (h : spared.Ends .fetch x (.error .notFound) y)
    (hx : .notFound ∉ x.fetchFailures) : x.stored = none := by
  obtain ⟨stored, calls, fetchFailures, pushFailures, inFlight, maxInFlight⟩ := x
  rcases h with h | ⟨⟨limit, hlimit⟩, -⟩
  · obtain ⟨hr, -⟩ := Prod.mk.inj h
    cases fetchFailures with
    | cons e rest =>
      obtain rfl : e = .notFound := Except.error.inj hr
      exact absurd List.mem_cons_self hx
    | nil =>
      cases stored with
      | none => rfl
      | some c => cases hr
  · cases hlimit

theorem notFound_not_mem_of_ends {k : RemoteCall} {r : k.Answer} (h : spared.Ends k x r y)
    (hx : .notFound ∉ x.fetchFailures) : .notFound ∉ y.fetchFailures := by
  obtain ⟨stored, calls, fetchFailures, pushFailures, inFlight, maxInFlight⟩ := x
  rcases h with h | ⟨-, rfl⟩
  · obtain ⟨-, rfl⟩ := Prod.mk.inj h
    cases k with
    | push c => cases pushFailures <;> exact hx
    | fetch =>
      cases fetchFailures with
      | cons e rest => exact fun hmem ↦ hx (List.mem_cons_of_mem e hmem)
      | nil => cases stored <;> exact hx
  · exact hx

end Memory

/-! ### Lifetimes -/

/-- **What all sessions so far have done to a store**, one after another. -/
structure Lifetime where
  /-- The journals of the sessions that are over, oldest first. -/
  past : List (List Event) := []
  /-- The session that goes on, and the store. -/
  system : System Memory

namespace Lifetime

open Journal TraceReconciler.System

/-- What a session leaves to the next one: a call that is outstanding is given up. -/
def left (s : System Memory) : Memory := if s.isBegun then s.store.abandon else s.store

@[simp]
theorem left_stored (s : System Memory) : (left s).stored = s.store.stored := by
  rw [left]
  split <;> rfl

@[simp]
theorem left_fetchFailures (s : System Memory) :
    (left s).fetchFailures = s.store.fetchFailures := by
  rw [left]
  split <;> rfl

/-- **A step of a lifetime**: the session goes on, or it is over, whatever it was about to do, and
another one begins. -/
inductive Step (l : Lifetime) : Lifetime → Prop
  | goOn {s : System Memory} (h : System.Step Memory.spared l.system s) :
      Step l { l with system := s }
  | restart : Step l ⟨l.past ++ [l.system.journal], .initial (left l.system)⟩

/-- What the lifetime of a store can come to. -/
def Reachable (m : Memory) : Lifetime → Prop :=
  ReflTransGen Step { system := .initial m }

/-- How often the store was seeded with success, in all sessions. -/
def seedings (l : Lifetime) : Nat :=
  l.past.foldl (fun n j ↦ n + Journal.seedings j) 0 + Journal.seedings l.system.journal

variable {m : Memory} {l l' : Lifetime}

/-- Every session is a run from the store that it has found. -/
theorem exists_reachable (h : Reachable m l) :
    ∃ x, System.Reachable Memory.spared x l.system := by
  induction h with
  | refl => exact ⟨m, .refl⟩
  | tail _ hstep ih =>
    cases hstep with
    | goOn hs =>
      obtain ⟨x, hx⟩ := ih
      exact ⟨x, hx.tail hs⟩
    | restart => exact ⟨_, .refl⟩

/-! ### The invariant -/

/-- **A store is spared**: what waits to fail no fetch is that the store was not written, it is
seeded only while it holds nothing, and it was seeded at most once, if it holds anything. -/
structure Spared (l : Lifetime) : Prop where
  notFound_not_mem : .notFound ∉ l.system.store.fetchFailures
  stored_eq (hp : l.system.actor.phase = .calling .seeding) : l.system.store.stored = none
  seedings_le : l.seedings ≤ l.system.store.stored.isSome.toNat

/-- Nothing is counted for events with no good answer to a write. -/
theorem seedings_adopt {r : Actor × List Event} (h : ∀ e ∈ r.2, e.isWrite = false) :
    seedings { l with system := l.system.adopt r } = l.seedings := by
  rw [seedings, adopt, seedings_append_of_isWrite_eq_false _ h]
  rfl

/-- An answer counts as a seeding if it is a good one and the store waits to be seeded. -/
theorem seedings_answer {t : Stage} (r : t.call.Answer) (y : Memory) :
    seedings { l with
      system := { l.system with store := y }.adopt (l.system.actor.answer t r) } =
      l.seedings + (awaitsSeed l.system.journal && (Event.answered t.call r).isWrite).toNat := by
  obtain ⟨es, hes, hquiet⟩ := exists_events_of_answer l.system.actor r
  rw [seedings, adopt, hes]
  dsimp only
  rw [seedings_append_cons _ _ hquiet, ← Nat.add_assoc]
  rfl

/-- **What an answer does to the store**, given what the call was made for. -/
theorem Spared.answer (h : Spared l) {x : Memory}
    (hx : System.Reachable Memory.spared x l.system) {t : Stage} {r : t.call.Answer} {y : Memory}
    (hp : l.system.actor.phase = .calling t) (hy : Memory.spared.Ends t.call l.system.store r y) :
    (y.stored = l.system.store.stored ∧ (Event.answered t.call r).isWrite = false) ∨
      (t = .seeding ∧ l.system.store.stored = none ∧ y.stored = some ∅) ∨
      (∃ c, t = .submitting c ∧ y.stored = some c ∧ awaitsSeed l.system.journal = false) := by
  cases t with
  | opening => exact .inl ⟨Memory.stored_of_ends_fetch hy, rfl⟩
  | confirming => exact .inl ⟨Memory.stored_of_ends_fetch hy, rfl⟩
  | seeding =>
    rcases Memory.stored_of_ends_push hy with ⟨rfl, hstored⟩ | ⟨⟨e, rfl⟩, hstored⟩
    · exact .inr (.inl ⟨rfl, h.stored_eq hp, hstored⟩)
    · exact .inl ⟨hstored, rfl⟩
  | submitting c =>
    rcases Memory.stored_of_ends_push hy with ⟨rfl, hstored⟩ | ⟨⟨e, rfl⟩, hstored⟩
    · obtain ⟨before, a, -, hj⟩ := exists_of_submitting hx hp
      exact .inr (.inr ⟨c, rfl, hstored, by simp [awaitsSeed, hj]⟩)
    · exact .inl ⟨hstored, rfl⟩

/-- An actor that is told to seed was told by the store that it holds nothing. -/
theorem Spared.stored_eq_none_of_answer (h : Spared l) {t : Stage} {r : t.call.Answer} {y : Memory}
    (hy : Memory.spared.Ends t.call l.system.store r y)
    (hp : (l.system.actor.answer t r).1.phase = .calling .seeding) : y.stored = none := by
  rw [Actor.answer] at hp
  cases hr : t.resume r with
  | inr o => simp [hr, Actor.publish, Actor.rest] at hp
  | inl t' =>
    obtain rfl : t' = .seeding := by simpa [hr, Actor.begin] using hp
    cases Stage.leads_of_resume hr with
    | unwritten =>
      rw [Memory.stored_of_ends_fetch hy]
      exact Memory.stored_of_ends_notFound hy h.notFound_not_mem

theorem Spared.step (h : Spared l) {x : Memory} (hx : System.Reachable Memory.spared x l.system)
    (hstep : Step l l') : Spared l' := by
  obtain ⟨hfailures, hseeding, hcount⟩ := h
  cases hstep with
  | restart =>
    refine ⟨?_, fun hp ↦ (by cases hp), ?_⟩
    · show .notFound ∉ (left l.system).fetchFailures
      rwa [left_fetchFailures]
    · show _ ≤ (left l.system).stored.isSome.toNat
      rw [left_stored]
      simpa [seedings, initial, Journal.seedings, tally] using hcount
  | goOn hs =>
    cases hs with
    | send c hg hh => exact ⟨hfailures, hseeding, hcount⟩
    | release hh => exact ⟨hfailures, hseeding, hcount⟩
    | stir hy =>
      refine ⟨hy.2, fun hp ↦ hy.1.trans (hseeding hp), ?_⟩
      show l.seedings ≤ _
      rw [hy.1]
      exact hcount
    | start hp =>
      refine ⟨hfailures, fun hp ↦ (by cases hp), ?_⟩
      rw [seedings_adopt fun e he ↦ Stage.isWrite_of_mem_start (t := .opening) he]
      exact hcount
    | call hp hb hy =>
      obtain rfl := hy
      exact ⟨hfailures, hseeding, hcount⟩
    | @take r hr =>
      obtain ⟨a', es⟩ := r
      have hm := Actor.moves_of_take? hr
      have hidle := phase_of_take? hr
      refine ⟨hfailures, fun hp ↦ absurd hp (phase_ne_seeding_of_moves hm hidle), ?_⟩
      rw [seedings_adopt (isWrite_of_moves hm hidle)]
      exact hcount
    | @answer t r y hp hb hy =>
      have hspared : Spared l := ⟨hfailures, hseeding, hcount⟩
      refine ⟨Memory.notFound_not_mem_of_ends hy hfailures,
        fun hp' ↦ hspared.stored_eq_none_of_answer hy hp', ?_⟩
      rw [seedings_answer]
      show _ ≤ y.stored.isSome.toNat
      rcases hspared.answer hx hp hy with ⟨hstored, hwrite⟩ | ⟨-, hnone, hsome⟩ | ⟨c, -, hsome, hj⟩
      · rw [hstored, hwrite, Bool.and_false]
        exact hcount
      · -- The store held nothing, so nothing was counted before.
        rw [hnone] at hcount
        rw [hsome]
        have hle := Bool.toNat_le (awaitsSeed l.system.journal && (Event.answered t.call r).isWrite)
        simp at hcount ⊢
        omega
      · rw [hj, hsome]
        exact Nat.le_trans hcount (Bool.toNat_le _)

theorem spared (hm : .notFound ∉ m.fetchFailures) (h : Reachable m l) : Spared l := by
  induction h with
  | refl => exact ⟨hm, nofun, Nat.zero_le _⟩
  | tail hreach hstep ih =>
    obtain ⟨x, hx⟩ := exists_reachable hreach
    exact ih.step hx hstep

/-! ### What becomes of a configuration -/

/-- **What a step does to a store that holds a configuration**: nothing, or it is replaced by what a
submission or a reset has asked to be written. -/
theorem Spared.replaced (h : Spared l) {x : Memory}
    (hx : System.Reachable Memory.spared x l.system) (hstep : Step l l') {b : Configuration}
    (hb : l.system.store.stored = some b) :
    l'.system.store.stored = some b ∨ ∃ before a c, (a = .synchronize ∨ a = .reset) ∧
      l.system.journal = before ++ [.taken a, .called (.push c)] ∧
      l'.system.store.stored = some c := by
  cases hstep with
  | restart => exact .inl ((left_stored l.system).trans hb)
  | goOn hs =>
    cases hs with
    | stir hy => exact .inl (hy.1.trans hb)
    | call hp hbegun hy =>
      obtain rfl := hy
      exact .inl hb
    | answer hp hbegun hy =>
      rcases h.answer hx hp hy with ⟨hstored, -⟩ | ⟨-, hnone, -⟩ | ⟨c, rfl, hsome, -⟩
      · exact .inl (hstored.trans hb)
      · rw [hb] at hnone
        cases hnone
      · obtain ⟨before, a, ha, hj⟩ := exists_of_submitting hx hp
        exact .inr ⟨before, a, c, ha, hj, hsome⟩
    | _ => exact .inl hb

/-- **To seed a store destroys nothing, and happens once.** In the lifetime of a store in memory
that no one else writes to, whichever sessions there are and wherever they end, whichever calls fail
or are given up, if no fetch is made to fail for want of a configuration, then

* a write that is outstanding is there to seed the store, and then the store holds nothing, or it is
  there because a submission or a reset was taken;
* the store was seeded with success once at most, in all sessions together;
* a configuration that the store holds stays there or is replaced by what a submission or a reset
  has asked to be written. -/
theorem seeding_spares (hm : .notFound ∉ m.fetchFailures) (h : Reachable m l) :
    (∀ before c, l.system.journal = before ++ [.called (.push c)] →
      (∃ past, before = past ++ [.seeding]) ∧ c = ∅ ∧ l.system.store.stored = none ∨
      ∃ past a, (a = .synchronize ∨ a = .reset) ∧ before = past ++ [.taken a]) ∧
    l.seedings ≤ 1 ∧
    ∀ l' b, Step l l' → l.system.store.stored = some b →
      l'.system.store.stored = some b ∨ ∃ before a c, (a = .synchronize ∨ a = .reset) ∧
        l.system.journal = before ++ [.taken a, .called (.push c)] ∧
        l'.system.store.stored = some c := by
  obtain ⟨x, hx⟩ := exists_reachable h
  have hspared := spared hm h
  refine ⟨fun before c hj ↦ ?_, ?_, fun l' b hstep hb ↦ hspared.replaced hx hstep hb⟩
  · rcases phase_of_called hx hj with ⟨hp, rfl⟩ | hp
    · obtain ⟨past, hpast⟩ := exists_of_seeding hx hp
      have hcut : before ++ [.called (.push ∅)] = (past ++ [.seeding]) ++ [.called (.push ∅)] := by
        rw [← hj, hpast, List.append_assoc]
        rfl
      exact .inl ⟨⟨past, List.append_cancel_right hcut⟩, rfl, hspared.stored_eq hp⟩
    · obtain ⟨past, a, ha, hpast⟩ := exists_of_submitting hx hp
      have hcut : before ++ [.called (.push c)] = (past ++ [.taken a]) ++ [.called (.push c)] := by
        rw [← hj, hpast, List.append_assoc]
        rfl
      exact .inr ⟨past, a, ha, List.append_cancel_right hcut⟩
  · exact Nat.le_trans hspared.seedings_le (Bool.toNat_le _)

/-- The first session ends while the store is about to be seeded, and so seeds nothing. In the
second one a fetch fails, the store is seeded after a retry, and an edit is about to be written: the
store was seeded once, and the write that is outstanding is one that was asked for. -/
theorem seeding_spares_interrupted :
    ∃ (l : Lifetime) (before : List Event), .notFound ∉ ({} : Memory).fetchFailures ∧
      Reachable {} l ∧ l.past.length = 1 ∧ l.seedings = 1 ∧ l.seedings ≤ 1 ∧
      l.system.journal = before ++ [.called (.push { gc := some ∅ })] ∧
      ∃ past a, (a = .synchronize ∨ a = .reset) ∧ before = past ++ [.taken a] := by
  have hm : .notFound ∉ ({} : Memory).fetchFailures := List.not_mem_nil
  have go {l : Lifetime} {s : System Memory} (h : Reachable {} l)
      (hs : System.Step Memory.spared l.system s) : Reachable {} { l with system := s } :=
    h.tail (.goOn hs)
  have h₀ : Reachable {} { system := .initial {} } := .refl
  have h₁ := go (go (go h₀ (.start rfl)) (.call rfl rfl rfl)) (.answer rfl rfl (.inl rfl))
  have h₂ := (go h₁ (.call rfl rfl rfl)).tail .restart
  have h₃ := go h₂ (.stir (y := ({} : Memory).failFetch (.failed "down"))
    ⟨rfl, by simp [Memory.failFetch]⟩)
  have h₄ := go (go (go h₃ (.start rfl)) (.call rfl rfl rfl)) (.answer rfl rfl (.inl rfl))
  have h₅ := go (go h₄ (.send (.handle .retry) rfl rfl)) (.take rfl)
  have h₆ := go (go h₅ (.call rfl rfl rfl)) (.answer rfl rfl (.inl rfl))
  have h₇ := go (go h₆ (.call rfl rfl rfl)) (.answer rfl rfl (.inl rfl))
  have h₈ := go (go h₇ (.call rfl rfl rfl)) (.answer rfl rfl (.inl rfl))
  have h₉ := go (go h₈ (.send (.handle (.change ⟨.gc, true, ∅⟩)) rfl rfl)) (.take rfl)
  have h := go (go h₉ (.send (.handle .synchronize) rfl rfl)) (.take rfl)
  obtain ⟨hwrite, honce, -⟩ := seeding_spares hm h
  let before : List Event := [.called .fetch, .answered .fetch (.error (.failed "down")),
    .published .uninitialized (.error (.failed "down")), .taken .retry,
    .published (.error (.failed "down")) .uninitialized, .called .fetch,
    .answered .fetch (.error .notFound), .seeding, .called (.push ∅), .answered (.push ∅) (.ok ()),
    .called .fetch, .answered .fetch (.ok ∅), .published .uninitialized (.synchronized ∅),
    .taken (.change ⟨.gc, true, ∅⟩),
    .published (.synchronized ∅) (.diverged { gc := some ∅ } ∅), .taken .synchronize]
  refine ⟨_, before, hm, h, rfl, rfl, honce, rfl, ?_⟩
  rcases hwrite before { gc := some ∅ } rfl with ⟨-, hempty, -⟩ | hasked
  · exact absurd hempty (by decide)
  · exact hasked

end Lifetime

end TraceReconciler
