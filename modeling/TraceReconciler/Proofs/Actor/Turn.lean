import TraceReconciler.Actor.Session
import TraceReconciler.Proofs.Actor.System

/-!
# The turn of an actor

A session lets its actors do what a system allows, in an order that depends on a schedule and a
clock. Seen from one of its actors (`Session.view`), what the session does in the turn of this actor
is a sequence of steps of a system (`Session.go_advances`), with a store whose calls may be given up
(`TimedRemote.limited`). So what holds of every system, in whatever order its steps are taken, holds
of what an actor does in a session.

Two things stand between a session and a system. A session makes the call of a stage as soon as the
stage is entered, so that a call has always begun between two turns. And it puts the first fetch
off, which is on record but is no step of the actor.
-/

namespace TraceReconciler

open Relation

variable {σ : Type}

/-- A store whose calls may also be given up before they end. -/
def TimedRemote.limited (remote : TimedRemote σ) : StoreBehaviour σ where
  Begins k x y := y = remote.begin k x
  Ends k x r y := remote.finish k x = (r, y) ∨
    (∃ limit, r = .error (k.timedOut limit)) ∧ y = remote.abandon x
  Stirs _ _ := False

/-- What has happened, but for the delay of the first fetch. -/
def Journal.undelayed (j : List Event) : List Event :=
  j.filter fun
    | .delaying _ => false
    | _ => true

theorem Journal.undelayed_append (j es : List Event) :
    undelayed (j ++ es) = undelayed j ++ undelayed es :=
  List.filter_append j es

theorem Actor.Moves.undelayed_eq {a a' : Actor} {es : List Event} (h : a.Moves es a') :
    Journal.undelayed es = es := by
  cases h with
  | @passed t t' r hp hr => cases t' <;> rfl
  | _ => rfl

namespace Session

open Journal

/-! ### One actor of a session -/

/-- Whether the call of a stage is outstanding. -/
def isCalling (a : Actor) : Bool :=
  match a.phase with
  | .calling _ => true
  | _ => false

/-- An actor of a session and its store, with the commands sent to the actor and what it has
done. -/
def view (i : Nat) (cs : List Command) (j : List Event) (s : Session σ) : System σ where
  actor := (s.worker i).actor
  store := s.store
  isBegun := isCalling (s.worker i).actor
  sent := cs
  journal := j

theorem actor_adopt {s : Session σ} {i : Nat} (hi : i < s.workers.length)
    (r : Actor × List Event) : ((s.adopt i r).worker i).actor = r.1 := by
  simp [adopt, record, modifyActor, worker, hi]

theorem worker_adopt_of_ne {s : Session σ} {i k : Nat} (hk : k ≠ i) (r : Actor × List Event) :
    (s.adopt i r).worker k = s.worker k := by
  simp [adopt, record, modifyActor, worker, hk.symm]

/-- **What an actor does in a session**, as steps of a system. The other actors are as before. -/
structure Advances (i : Nat) (s s' : Session σ) : Prop where
  remote_eq : s'.remote = s.remote
  length_eq : s'.workers.length = s.workers.length
  worker_eq {k : Nat} (hk : k ≠ i) : s'.worker k = s.worker k
  steps : ∃ es, s'.journal = s.journal ++ es ∧ ∀ cs j,
    ReflTransGen (System.Step s.remote.limited) (s.view i cs j) (s'.view i cs (j ++ undelayed es))

namespace Advances

variable {i : Nat} {s s' s'' : Session σ}

theorem refl : Advances i s s where
  remote_eq := rfl
  length_eq := rfl
  worker_eq _ := rfl
  steps := ⟨[], by rw [List.append_nil], fun _ j ↦ by
    rw [undelayed, List.filter_nil, List.append_nil]⟩

theorem trans (h : Advances i s s') (h' : Advances i s' s'') : Advances i s s'' where
  remote_eq := h'.remote_eq.trans h.remote_eq
  length_eq := h'.length_eq.trans h.length_eq
  worker_eq hk := (h'.worker_eq hk).trans (h.worker_eq hk)
  steps := by
    obtain ⟨es, hes, hsteps⟩ := h.steps
    obtain ⟨es', hes', hsteps'⟩ := h'.steps
    rw [h.remote_eq] at hsteps'
    refine ⟨es ++ es', by rw [hes', hes, List.append_assoc], fun cs j ↦ ?_⟩
    rw [undelayed_append, ← List.append_assoc]
    exact (hsteps cs j).trans (hsteps' cs _)

/-- The schedule is no part of the view. -/
theorem modifySchedule (f : Schedule → Schedule) (h : Advances i s s') :
    Advances i s (s'.modifySchedule f) :=
  ⟨h.remote_eq, h.length_eq, h.worker_eq, h.steps⟩

end Advances

/-! ### Small steps -/

variable {i : Nat} {s : Session σ}

/-- The call of a stage begins when the stage has been entered. -/
theorem launch_steps (i : Nat) (cs : List Command) (j : List Event) (s : Session σ) :
    ReflTransGen (System.Step s.remote.limited) { s.view i cs j with isBegun := false }
      ((s.launch i).view i cs j) := by
  rw [launch]
  cases hp : (s.worker i).actor.phase with
  | calling t =>
    have hbegun : isCalling (s.worker i).actor = true := by rw [isCalling, hp]
    have hview : ({ s with store := s.remote.begin t.call s.store } : Session σ).view i cs j =
        { s.view i cs j with store := s.remote.begin t.call s.store, isBegun := true } := by
      rw [← hbegun]
      rfl
    rw [hview]
    exact .single (.call hp rfl rfl)
  | _ =>
    have hbegun : isCalling (s.worker i).actor = false := by rw [isCalling, hp]
    rw [← hbegun]
    exact .refl

theorem launch_eq (i : Nat) (s : Session σ) : ∃ y, s.launch i = { s with store := y } := by
  rw [launch]
  split <;> exact ⟨_, rfl⟩

/-- **A move of an actor in a session** is a step of a system, and the call that it leads to begins
with another one. -/
theorem advances_launch {y : σ} {r : Actor × List Event} (hi : i < s.workers.length)
    (hm : (s.worker i).actor.Moves r.2 r.1)
    (hstep : ∀ cs j, System.Step s.remote.limited (s.view i cs j)
      (({ s.view i cs j with store := y }).adopt r)) :
    Advances i s (({ s with store := y }.adopt i r).launch i) := by
  have hactor : (({ s with store := y }.adopt i r).worker i).actor = r.1 := actor_adopt hi r
  have hlaunch (cs : List Command) (j : List Event) :=
    launch_steps i cs (j ++ r.2) ({ s with store := y }.adopt i r)
  obtain ⟨z, hz⟩ := launch_eq i ({ s with store := y }.adopt i r)
  rw [hz] at hlaunch ⊢
  refine ⟨rfl, List.length_modify .., fun hk ↦ worker_adopt_of_ne hk r, r.2, rfl, fun cs j ↦ ?_⟩
  have hview : ({ s.view i cs j with store := y }).adopt r =
      { ({ s with store := y }.adopt i r).view i cs (j ++ r.2) with isBegun := false } := by
    simp only [view, hactor]
    rfl
  rw [hm.undelayed_eq]
  refine .head (hstep cs j) ?_
  rw [hview]
  exact hlaunch cs j

/-- **The answer comes**, from the store or because the time is over. -/
theorem conclude_advances {t : Stage} (hi : i < s.workers.length)
    (hp : (s.worker i).actor.phase = .calling t) : Advances i s ((s.conclude i t).launch i) := by
  have hbegun (cs : List Command) (j : List Event) : (s.view i cs j).isBegun = true := by
    simp only [view, isCalling, hp]
  rw [conclude]
  split
  · next l hl =>
    exact advances_launch hi (Actor.moves_answer hp _) fun cs j ↦
      .answer hp (hbegun cs j) (.inr ⟨⟨l, rfl⟩, rfl⟩)
  · exact advances_launch hi (Actor.moves_answer hp _) fun cs j ↦
      .answer hp (hbegun cs j) (.inl rfl)

/-- **A small step of an actor** in a session is made of steps of a system. -/
theorem step_advances (hi : i < s.workers.length) (isDue : Bool) :
    Advances i s (s.step i isDue).1 := by
  rw [step]
  cases hp : (s.worker i).actor.phase with
  | waiting =>
    dsimp only
    split
    · exact advances_launch hi (Actor.moves_begin hp) fun _ _ ↦ .start hp
    · refine .modifySchedule _ ⟨rfl, rfl, fun _ ↦ rfl, _, rfl, fun cs j ↦ ?_⟩
      rw [undelayed, List.filter_cons_of_neg (by simp), List.filter_nil, List.append_nil]
      exact .refl
  | calling t =>
    dsimp only
    split
    · exact conclude_advances hi hp
    · exact .modifySchedule _ .refl
  | idle =>
    dsimp only
    split
    · next r hr => exact advances_launch hi (Actor.moves_of_take? hr) fun _ _ ↦ .take hr
    · exact .refl
  | stopped => exact .refl
  | killed => exact .refl

/-- **The turn of an actor** is made of steps of a system, however much it allows. -/
theorem go_advances (hi : i < s.workers.length) (n allowed : Nat) (isDue : Bool) :
    Advances i s (s.go i n allowed isDue) := by
  induction n generalizing allowed isDue s with
  | zero => exact .refl
  | succ n ih =>
    rw [go]
    split
    · exact .modifySchedule _ .refl
    · have hstep := step_advances hi isDue
      rcases hs : s.step i isDue with ⟨s', _ | _⟩
      · rw [hs] at hstep
        exact hstep
      · rw [hs] at hstep
        have hi' : i < s'.workers.length := by
          rw [hstep.length_eq]
          exact hi
        exact hstep.trans (ih hi' _ _)

end Session

end TraceReconciler
