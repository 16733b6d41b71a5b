import TraceReconciler.Proofs.Actor.Interleaving
import TraceReconciler.Proofs.Actor.Pushes

/-!
# The shape of traffic

The calls that an actor makes come in blocks. A block establishes a state (`Journal.Establishes`) or
submits a configuration (`Journal.Submits`), and ends with its first failure, but for the one that
says that the store was never written. `Journal.Shaped` is the language of all sequences of blocks,
told together with the actions for which they are made:

* one block that establishes a state comes first, and is made for no action;
* after a block that has come to a good end, an edit adds nothing, and an order to submit or to
  reset may add a block that submits;
* after a block that has failed, an order to start again adds a block that establishes a state;
* an action that is ignored adds nothing, whatever came before.

The invariant is `System.Regular`. Between two actions the journal is in the language, and the state
shows how the last block ended, which is all that decides what the next action may add. While a call
is outstanding, its block stands where the stage of the errand says (`Journal.Stands`).

**A submission needs an edit.** What is submitted differs from what the last call has fetched, so
there is an edit after this call, and with it after the submission before.
-/

namespace TraceReconciler

/-- What the outcome of the last errand has left in a state. -/
def State.Shows (s : State) : Stage.Outcome → Prop
  | .ok c => s.backend? = some c
  | .error e => s = .error e

theorem State.shows_settle (o : Stage.Outcome) : (State.settle o).Shows o := by
  cases o <;> rfl

theorem State.exists_of_shows {s : State} {o : Stage.Outcome} {b : Configuration} (h : s.Shows o)
    (hb : s.backend? = some b) : o = .ok b := by
  cases o with
  | ok c => exact congrArg Except.ok (Option.some.inj (h.symm.trans hb))
  | error e =>
    obtain rfl : s = .error e := h
    cases hb

namespace Journal

/-! ### Blocks -/

/-- **The calls that establish a state**, with their answers, and what they come to. -/
inductive Establishes : List Exchange → Stage.Outcome → Prop
  /-- The store holds a configuration. -/
  | found (c : Configuration) : Establishes [⟨.fetch, .ok c⟩] (.ok c)
  /-- The store cannot be read. -/
  | failed {e : RemoteError} (he : e ≠ .notFound) : Establishes [⟨.fetch, .error e⟩] (.error e)
  /-- The store was never written, and cannot be. -/
  | unseeded (e : RemoteError) :
      Establishes [⟨.fetch, .error .notFound⟩, ⟨.push ∅, .error e⟩] (.error e)
  /-- The store is seeded, and what comes of it is fetched. -/
  | seeded (o : Stage.Outcome) :
      Establishes [⟨.fetch, .error .notFound⟩, ⟨.push ∅, .ok ()⟩, ⟨.fetch, o⟩] o

/-- **The calls that submit a configuration**, with their answers, and what they come to. -/
inductive Submits (c : Configuration) : List Exchange → Stage.Outcome → Prop
  | refused (e : RemoteError) : Submits c [⟨.push c, .error e⟩] (.error e)
  | fetched (o : Stage.Outcome) : Submits c [⟨.push c, .ok ()⟩, ⟨.fetch, o⟩] o

/-- What an errand comes to by some calls. -/
def Completes (xs : List Exchange) (o : Stage.Outcome) : Errand → Prop
  | .establish => Establishes xs o
  | .submit c => Submits c xs o

/-- **Where an errand stands** after some calls. -/
inductive Stands : Errand → Stage → List Exchange → Prop
  | opening : Stands .establish .opening []
  | seeding : Stands .establish .seeding [⟨.fetch, .error .notFound⟩]
  | seeded : Stands .establish .confirming [⟨.fetch, .error .notFound⟩, ⟨.push ∅, .ok ()⟩]
  | submitting (c : Configuration) : Stands (.submit c) (.submitting c) []
  | submitted (c : Configuration) : Stands (.submit c) .confirming [⟨.push c, .ok ()⟩]

theorem stands_stage (e : Errand) : Stands e e.stage [] := by
  cases e with
  | establish => exact .opening
  | submit c => exact .submitting c

/-- An answer that leads to another stage is the next one of the block. -/
theorem Stands.passed {e : Errand} {t t' : Stage} {xs : List Exchange} {r : t.call.Answer}
    (h : Stands e t xs) (hr : t.resume r = .inl t') : Stands e t' (xs ++ [⟨t.call, r⟩]) := by
  cases Stage.leads_of_resume hr with
  | unwritten =>
    cases h with
    | opening => exact .seeding
  | seeded =>
    cases h with
    | seeding => exact .seeded
  | submitted c =>
    cases h with
    | submitting => exact .submitted c

/-- **The answer that ends an errand completes its block.** -/
theorem Stands.ended {e : Errand} {t : Stage} {xs : List Exchange} {r : t.call.Answer}
    {o : Stage.Outcome} (h : Stands e t xs) (hr : t.resume r = .inr o) :
    Completes (xs ++ [⟨t.call, r⟩]) o e := by
  cases h with
  | opening =>
    rcases r with (_ | m) | c
    · cases hr
    · obtain rfl : Except.error (.failed m) = o := Sum.inr.inj hr
      exact .failed nofun
    · obtain rfl : Except.ok c = o := Sum.inr.inj hr
      exact .found c
  | seeding =>
    rcases r with f | u
    · obtain rfl : Except.error f = o := Sum.inr.inj hr
      exact .unseeded f
    · cases hr
  | seeded =>
    obtain rfl : r = o := Sum.inr.inj hr
    exact .seeded r
  | submitting c =>
    rcases r with f | u
    · obtain rfl : Except.error f = o := Sum.inr.inj hr
      exact .refused f
    · cases hr
  | submitted c =>
    obtain rfl : r = o := Sum.inr.inj hr
    exact .fetched r

/-! ### Sequences of blocks -/

/-- Whether an event is a call, an answer, or an action with what is made of it at once. -/
def isDealing : Event → Bool
  | .called _ => true
  | .answered _ _ => true
  | .taken _ => true
  | .ignored _ _ => true
  | _ => false

/-- The calls and answers of a journal between the actions that were handled. -/
def dealings (j : List Event) : List Event := j.filter isDealing

theorem dealings_append (j es : List Event) : dealings (j ++ es) = dealings j ++ dealings es :=
  List.filter_append j es

theorem dealings_start (t : Stage) : dealings t.start = [.called t.call] := by
  cases t <;> rfl

theorem exchanges_concat (xs : List Exchange) (x : Exchange) :
    System.exchanges (xs ++ [x]) =
      System.exchanges xs ++ [.called x.call, .answered x.call x.answer] := by
  simp [System.exchanges]

/-- **Sequences of blocks**, with the actions for which they are made, and how the last block
ended. -/
inductive Shaped : List Event → Stage.Outcome → Prop
  /-- A state is established before any action is handled. -/
  | established {xs : List Exchange} {o : Stage.Outcome} (hx : Establishes xs o) :
      Shaped (System.exchanges xs) o
  /-- An edit makes no calls. -/
  | edited {es : List Event} {c : Configuration} (h : Shaped es (.ok c)) (e : Change) :
      Shaped (es ++ [.taken (.change e)]) (.ok c)
  /-- An action that is ignored makes no calls. -/
  | ignored {es : List Event} {o : Stage.Outcome} (h : Shaped es o) (a : Action) (s : State) :
      Shaped (es ++ [.taken a, .ignored a s]) o
  /-- A configuration is submitted; for a reset it is the empty one. -/
  | submitted {es : List Event} {b c : Configuration} {a : Action} {xs : List Exchange}
      {o : Stage.Outcome} (h : Shaped es (.ok b)) (ha : a = .synchronize ∨ a = .reset ∧ c = ∅)
      (hx : Submits c xs o) : Shaped (es ++ .taken a :: System.exchanges xs) o
  /-- After a failure, a state is established anew. -/
  | restarted {es : List Event} {e : RemoteError} {xs : List Exchange} {o : Stage.Outcome}
      (h : Shaped es (.error e)) (hx : Establishes xs o) :
      Shaped (es ++ .taken .retry :: System.exchanges xs) o

/-- What comes before a block: nothing, or a sequence of blocks and the action for which the next
one is made. -/
inductive CallsFor : List Event → Errand → Prop
  | start : CallsFor [] .establish
  | submission {es : List Event} {b c : Configuration} {a : Action} (h : Shaped es (.ok b))
      (ha : a = .synchronize ∨ a = .reset ∧ c = ∅) : CallsFor (es ++ [.taken a]) (.submit c)
  | restart {es : List Event} {e : RemoteError} (h : Shaped es (.error e)) :
      CallsFor (es ++ [.taken .retry]) .establish

/-- A block that is complete makes a longer sequence. -/
theorem CallsFor.shaped {es : List Event} {e : Errand} {xs : List Exchange} {o : Stage.Outcome}
    (h : CallsFor es e) (hx : Completes xs o e) : Shaped (es ++ System.exchanges xs) o := by
  cases h with
  | start => exact .established hx
  | submission h ha =>
    rw [List.append_assoc]
    exact .submitted h ha hx
  | restart h =>
    rw [List.append_assoc]
    exact .restarted h hx

end Journal

namespace System

open Journal

variable {σ : Type} {w : StoreBehaviour σ} {x : σ} {s : System σ}

/-! ### The invariant -/

/-- **A journal is a sequence of blocks**, as far as the phase of the actor says. -/
def Regular (j : List Event) (a : Actor) : Prop :=
  match a.phase with
  | .waiting => j = []
  | .calling t => ∃ es e xs, dealings j = es ++ exchanges xs ++ [.called t.call] ∧ CallsFor es e ∧
      Stands e t xs
  | .idle => ∃ o, Shaped (dealings j) o ∧ a.state.Shows o
  | .stopped => ∃ o, Shaped (dealings j) o ∧ a.state.Shows o
  | .killed => False

variable {j es : List Event} {a a' : Actor}

theorem Regular.exists_stands (h : Regular j a) {t : Stage} (hp : a.phase = .calling t) :
    ∃ es e xs, dealings j = es ++ exchanges xs ++ [.called t.call] ∧ CallsFor es e ∧
      Stands e t xs := by
  rw [Regular, hp] at h
  exact h

theorem Regular.exists_shaped (h : Regular j a) (hp : a.phase = .idle ∨ a.phase = .stopped) :
    ∃ o, Shaped (dealings j) o ∧ a.state.Shows o := by
  rcases hp with hp | hp
  · rw [Regular, hp] at h
    exact h
  · rw [Regular, hp] at h
    exact h

/-- In a state with a remote configuration the last block has come to a good end. -/
theorem Regular.shaped_ok (h : Regular j a) (hp : a.phase = .idle) {b : Configuration}
    (hb : a.state.backend? = some b) : Shaped (dealings j) (.ok b) := by
  obtain ⟨o, hshaped, hshows⟩ := h.exists_shaped (.inl hp)
  obtain rfl := State.exists_of_shows hshows hb
  exact hshaped

/-- **An errand is begun**: its block has no calls yet but the one that is outstanding. -/
theorem Regular.of_callsFor {e : Errand} (hp : a.phase = .calling e.stage)
    (hj : dealings j = es ++ [.called e.stage.call]) (h : CallsFor es e) : Regular j a := by
  rw [Regular, hp]
  refine ⟨es, e, [], ?_, h, stands_stage e⟩
  rw [hj]
  exact congrArg (· ++ [_]) (List.append_nil es).symm

/-- An actor that stops makes no calls. -/
theorem Regular.of_stopped (h : Regular j a) (hp : a.phase = .idle) (q : List Command)
    (hes : dealings es = []) : Regular (j ++ es) { a with queue := q, phase := .stopped } := by
  obtain ⟨o, hshaped, hshows⟩ := h.exists_shaped (.inl hp)
  refine ⟨o, ?_, hshows⟩
  rwa [dealings_append, hes, List.append_nil]

/-- **Whatever an actor does goes on with a sequence of blocks.** -/
theorem regular_moves (hm : a.Moves es a') (h : Regular j a) : Regular (j ++ es) a' := by
  cases hm with
  | opened hp =>
    rw [Regular, hp] at h
    subst h
    exact .of_callsFor (e := .establish) rfl rfl .start
  | @passed t t' r hp hr =>
    obtain ⟨before, e, xs, hj, hcalls, hstands⟩ := h.exists_stands hp
    refine ⟨before, e, xs ++ [⟨t.call, r⟩], ?_, hcalls, hstands.passed hr⟩
    have hes : dealings (.answered t.call r :: t'.start) = [.answered t.call r, .called t'.call] :=
      congrArg (Event.answered t.call r :: ·) (dealings_start t')
    rw [dealings_append, hj, hes, exchanges_concat]
    simp
  | @settled t r o hp hr =>
    obtain ⟨before, e, xs, hj, hcalls, hstands⟩ := h.exists_stands hp
    refine ⟨o, ?_, State.shows_settle o⟩
    have hshaped := hcalls.shaped (hstands.ended hr)
    rw [exchanges_concat] at hshaped
    have hes : dealings [.answered t.call r, .published a.state (.settle o)] =
      [.answered t.call r] := rfl
    rw [dealings_append, hj, hes]
    simpa using hshaped
  | ignored hp hq hx =>
    obtain ⟨o, hshaped, hshows⟩ := h.exists_shaped (.inl hp)
    refine ⟨o, ?_, hshows⟩
    rw [dealings_append]
    exact hshaped.ignored _ _
  | @edited e q l b hp hq hl hb =>
    refine ⟨.ok b, ?_, State.backend?_compare _ _⟩
    rw [dealings_append]
    exact (h.shaped_ok hp hb).edited e
  | @submitted q l b hp hq hs =>
    have hb : a.state.backend? = some b := by rw [hs]; rfl
    refine .of_callsFor (e := .submit l) rfl ?_ (.submission (h.shaped_ok hp hb) (.inl rfl))
    rw [dealings_append, List.append_assoc]
    rfl
  | cleared hp hq hb =>
    refine .of_callsFor (e := .submit ∅) rfl ?_
      (.submission (h.shaped_ok hp hb) (.inr ⟨rfl, rfl⟩))
    rw [dealings_append, List.append_assoc]
    rfl
  | @restarted q e hp hq hs =>
    obtain ⟨o, hshaped, hshows⟩ := h.exists_shaped (.inl hp)
    rw [hs] at hshows
    cases o with
    | ok c => cases hshows
    | error f =>
      refine .of_callsFor (e := .establish) rfl ?_ (.restart hshaped)
      rw [dealings_append, List.append_assoc]
      rfl
  | closed hp hq => exact h.of_stopped hp _ rfl
  | ended hp hq hh => exact h.of_stopped hp _ rfl

theorem regular (h : Reachable w x s) : Regular s.journal s.actor :=
  invariant (P := fun _ ↦ Regular) rfl (fun _ _ h ↦ h) (fun h ↦ h) regular_moves h

end System

namespace Journal

/-! ### Submissions -/

/-- How often a submission has been taken and has started to write. -/
def submissions : List Event → Nat
  | .taken .synchronize :: .called (.push _) :: es => submissions es + 1
  | _ :: es => submissions es
  | [] => 0

/-- A journal with a submission can be cut there. -/
theorem exists_of_submissions_pos {j : List Event} (h : 0 < submissions j) :
    ∃ before c after, j = before ++ .taken .synchronize :: .called (.push c) :: after ∧
      submissions j = submissions after + 1 := by
  fun_induction submissions j with
  | case1 c es ih => exact ⟨[], c, es, rfl, rfl⟩
  | case2 e es hne ih =>
    obtain ⟨before, c, after, rfl, hcount⟩ := ih h
    exact ⟨e :: before, c, after, rfl, hcount⟩
  | case3 => simp at h

/-- What has happened since the last call comes after any other call and answer. -/
theorem LastCall.suffix {j : List Event} {k : RemoteCall} {r : k.Answer} {since : List Event}
    (h : LastCall j k r since) {p q : List Event} {e : Event} (hj : j = p ++ e :: q)
    (he : e.isTraffic = true) : since <:+ q := by
  obtain ⟨hquiet, before, hcut⟩ := h
  have hsince : since <:+ j := ⟨before ++ [.called k, .answered k r], by rw [hcut]; simp⟩
  have hq : e :: q <:+ j := ⟨p, hj.symm⟩
  have hnot : e ∉ since := fun hmem ↦ List.filter_eq_nil_iff.1 hquiet e hmem he
  rcases List.suffix_or_suffix_of_suffix hsince hq with hle | hge
  · rcases List.suffix_cons_iff.1 hle with rfl | hle
    · exact absurd List.mem_cons_self hnot
    · exact hle
  · exact absurd (hge.subset List.mem_cons_self) hnot

/-- **What licenses a submission is an edit** after the last call. -/
theorem Licensed.exists_edit {before : List Event} {c : Configuration}
    (h : Licensed (before ++ [.taken .synchronize]) c) :
    ∃ b since, LastCall before .fetch (.ok b) since ∧ edits since ≠ [] := by
  generalize hpast : before ++ [Event.taken .synchronize] = past at h
  cases h with
  | seed hopens => simpa using congrArg List.getLast? hpast
  | reset hstate => simp at hpast
  | @submit before' since b hlast hne =>
    obtain ⟨rfl, -⟩ := List.append_inj' hpast rfl
    refine ⟨b, since, hlast, fun hnil ↦ hne ?_⟩
    rw [hnil, Configuration.applyAll_nil]

end Journal

namespace System

open Journal

variable {σ : Type} {w : StoreBehaviour σ} {x : σ} {s : System σ}

/-- **Between two submissions that write there is an edit**, whatever else there is. -/
theorem edits_ne_nil_of_submissions (h : Reachable w x s) {p q r : List Event}
    {c d : Configuration} (hj : s.journal = p ++ .taken .synchronize :: .called (.push c) ::
      (q ++ .taken .synchronize :: .called (.push d) :: r)) : edits q ≠ [] := by
  have hcut : s.journal = ((p ++ .taken .synchronize :: .called (.push c) :: q) ++
      [.taken .synchronize]) ++ .called (.push d) :: r := by
    rw [hj]
    simp
  obtain ⟨b, since, hlast, hedits⟩ := ((licensed h).of_cut hcut d rfl).exists_edit
  -- The fetch that the second submission rests on comes after the write of the first one.
  obtain ⟨earlier, rfl⟩ := hlast.suffix (p := p ++ [.taken .synchronize]) (q := q)
    (by rw [List.append_assoc]; rfl) (e := .called (.push c)) rfl
  rw [edits_append]
  exact fun hnil ↦ hedits (List.append_eq_nil_iff.1 hnil).2

/-- **A part of a run without an edit writes for one submission at most.** -/
theorem submissions_le_one (h : Reachable w x s) {p q r : List Event}
    (hj : s.journal = p ++ q ++ r) (hq : edits q = []) : submissions q ≤ 1 := by
  by_contra hmany
  obtain ⟨before, c, after, rfl, hcount⟩ := exists_of_submissions_pos (j := q) (by omega)
  obtain ⟨between, d, rest, rfl, -⟩ := exists_of_submissions_pos (j := after) (by omega)
  have hedits : edits between ≠ [] := by
    refine edits_ne_nil_of_submissions h (p := p ++ before) (c := c) (d := d) (r := rest ++ r) ?_
    rw [hj]
    simp
  refine hedits ?_
  have hsplit : before ++ .taken .synchronize :: .called (.push c) ::
      (between ++ .taken .synchronize :: .called (.push d) :: rest) =
      (before ++ [.taken .synchronize, .called (.push c)]) ++ (between ++
        (.taken .synchronize :: .called (.push d) :: rest)) := by simp
  rw [hsplit, edits_append, edits_append between] at hq
  exact (List.append_eq_nil_iff.1 (List.append_eq_nil_iff.1 hq).2).1

/-- **Traffic has one shape.** Whatever the store answers, and whenever commands are sent,

* between two actions, and when the actor has stopped, the calls made so far with their answers are
  a sequence of blocks, each of them made for the action before it, and the state shows how the last
  one ended;
* between two submissions that write there is an edit;
* so any number of submissions without an edit between them write once at most. -/
theorem traffic_shaped (h : Reachable w x s) :
    (s.actor.phase = .idle ∨ s.actor.phase = .stopped →
      ∃ o, Shaped (dealings s.journal) o ∧ s.actor.state.Shows o) ∧
    (∀ p c q d r, s.journal = p ++ .taken .synchronize :: .called (.push c) ::
      (q ++ .taken .synchronize :: .called (.push d) :: r) → edits q ≠ []) ∧
    ∀ p q r, s.journal = p ++ q ++ r → edits q = [] → submissions q ≤ 1 :=
  ⟨(regular h).exists_shaped, fun _ _ _ _ _ hj ↦ edits_ne_nil_of_submissions h hj,
    fun _ _ _ hj hq ↦ submissions_le_one h hj hq⟩

/-- The first fetch is given up, the second one is not. An edit is submitted twice and the second
time ignored, which leaves one write. -/
theorem traffic_shaped_retried :
    ∃ s : System Memory, Reachable Memory.unshared (.ofConfiguration ∅) s ∧
      handled s.journal =
        [.retry, .change ⟨.gc, true, .ofList [7]⟩, .synchronize, .synchronize] ∧
      submissions s.journal = 1 ∧
      ∃ o, Shaped (dealings s.journal) o ∧ s.actor.state.Shows o ∧
        o = .ok { gc := some (.ofList [7]) } := by
  let edited : Configuration := { gc := some (.ofList [7]) }
  have h₀ : Reachable Memory.unshared (.ofConfiguration ∅) (initial (.ofConfiguration ∅)) := .refl
  have h₁ := (h₀.tail (.start rfl)).tail (.call rfl rfl rfl)
  have h₂ := h₁.tail (.answer rfl rfl (.inr ⟨⟨5, rfl⟩, rfl⟩))
  have h₃ := (h₂.tail (.send (.handle .retry) rfl rfl)).tail (.take rfl)
  have h₄ := (h₃.tail (.call rfl rfl rfl)).tail (.answer rfl rfl (.inl rfl))
  have h₅ := h₄.tail (.send (.handle (.change ⟨.gc, true, .ofList [7]⟩)) rfl rfl)
  have h₆ := h₅.tail (.send (.handle .synchronize) rfl rfl)
  have h₇ := (h₆.tail (.send (.handle .synchronize) rfl rfl)).tail (.take rfl)
  have h₈ := ((h₇.tail (.take rfl)).tail (.call rfl rfl rfl)).tail (.answer rfl rfl (.inl rfl))
  have h₉ := ((h₈.tail (.call rfl rfl rfl)).tail (.answer rfl rfl (.inl rfl))).tail (.take rfl)
  obtain ⟨o, hshaped, hshows⟩ := (traffic_shaped h₉).1 (.inl rfl)
  exact ⟨_, h₉, rfl, rfl, o, hshaped, hshows, State.exists_of_shows (b := edited) hshows rfl⟩

end System

end TraceReconciler
