import TraceReconciler.Reconcile.Event

/-!
# Reading a journal

A journal is the list of the events of a run, oldest first. What a run has shown so far can be read
off it: the actions handled, the states published, the calls and their answers.

Three readings look at more than one event.

* `LastCall j k r since` says that the last call was `k`, that it was answered `r`, and what has
  happened after that. All edits handled since the last call are those of `since`.
* `Throughout Q past j` says of every event of a journal that it stands in the relation `Q` to all
  that came before it. It is defined along the journal, so that it passes to a longer one by looking
  at the new events only (`throughout_append`), and it is used at a cut (`Throughout.of_cut`).
* `tally q past j` counts the events of a journal that do, and goes along the journal as well.
-/

namespace TraceReconciler

/-- The change that an action makes. -/
def Action.change? : Action → Option Change
  | .change e => some e
  | _ => none

/-- Whether an event is a call or an answer. -/
def Event.isTraffic : Event → Bool
  | .called _ => true
  | .answered _ _ => true
  | _ => false

/-- The configuration that an event starts to write. -/
def Event.pushed? (e : Event) : Option Configuration := e.call?.bind RemoteCall.pushed?

namespace Journal

/-! ### Events of one kind -/

/-- The actions handled, in order. -/
def handled (j : List Event) : List Action := j.filterMap Event.action?

/-- The changes among the actions handled, in order. -/
def edits (j : List Event) : List Change := (handled j).filterMap Action.change?

/-- The states published, in order. -/
def published (j : List Event) : List State := j.filterMap Event.state?

/-- The state published last. -/
def state (j : List Event) : State := (published j).getLastD .uninitialized

/-- The configurations that were to be written, in order. -/
def pushes (j : List Event) : List Configuration := j.filterMap Event.pushed?

/-- The calls and the answers, in order. -/
def traffic (j : List Event) : List Event := j.filter Event.isTraffic

theorem handled_append (j es : List Event) : handled (j ++ es) = handled j ++ handled es :=
  List.filterMap_append

theorem edits_append (j es : List Event) : edits (j ++ es) = edits j ++ edits es := by
  rw [edits, handled_append, List.filterMap_append]
  rfl

theorem published_append (j es : List Event) :
    published (j ++ es) = published j ++ published es :=
  List.filterMap_append

theorem pushes_append (j es : List Event) : pushes (j ++ es) = pushes j ++ pushes es :=
  List.filterMap_append

theorem traffic_append (j es : List Event) : traffic (j ++ es) = traffic j ++ traffic es :=
  List.filter_append j es

/-- Events that publish nothing leave the state as it was. -/
theorem state_append_of_nil {j es : List Event} (h : published es = []) :
    state (j ++ es) = state j := by
  rw [state, published_append, h, List.append_nil]
  rfl

/-- The state published last counts, whatever came before. -/
theorem state_append_of_singleton {j es : List Event} {s : State} (h : published es = [s]) :
    state (j ++ es) = s := by
  rw [state, published_append, h]
  simp

/-! ### The last call -/

/-- The last call was answered, and `since` is what has happened after the answer. -/
def LastCall (j : List Event) (k : RemoteCall) (r : k.Answer) (since : List Event) : Prop :=
  traffic since = [] ∧ ∃ before, j = before ++ .called k :: .answered k r :: since

theorem LastCall.append {j : List Event} {k : RemoteCall} {r : k.Answer} {since : List Event}
    (h : LastCall j k r since) {es : List Event} (hes : traffic es = []) :
    LastCall (j ++ es) k r (since ++ es) := by
  obtain ⟨hquiet, before, rfl⟩ := h
  refine ⟨?_, before, ?_⟩
  · rw [traffic_append, hquiet, hes, List.append_nil]
  · rw [List.append_assoc, List.cons_append, List.cons_append]

/-- A call that was outstanding is answered. -/
theorem LastCall.of_called {before : List Event} {k : RemoteCall} {r : k.Answer}
    {since : List Event} (h : traffic since = []) :
    LastCall ((before ++ [.called k]) ++ .answered k r :: since) k r since :=
  ⟨h, before, by rw [List.append_assoc, List.singleton_append]⟩

/-! ### Every event and its past -/

/-- Every event of a journal stands in a relation to all that came before it. -/
def Throughout (Q : List Event → Event → Prop) : List Event → List Event → Prop
  | _, [] => True
  | past, e :: es => Q past e ∧ Throughout Q (past ++ [e]) es

variable {Q : List Event → Event → Prop}

theorem throughout_append {past xs ys : List Event} :
    Throughout Q past (xs ++ ys) ↔ Throughout Q past xs ∧ Throughout Q (past ++ xs) ys := by
  induction xs generalizing past with
  | nil => simp [Throughout]
  | cons x xs ih =>
    rw [List.cons_append, Throughout, Throughout, ih, and_assoc, List.append_assoc,
      List.singleton_append]

/-- What holds throughout a journal holds at every cut of it. -/
theorem Throughout.of_cut {j before after : List Event} {e : Event} (h : Throughout Q [] j)
    (hj : j = before ++ e :: after) : Q before e := by
  rw [hj, throughout_append] at h
  exact h.2.1

/-- A relation that is about events of one kind only holds throughout events of other kinds. -/
theorem Throughout.of_filterMap_eq_nil {α : Type} {f : Event → Option α} {past es : List Event}
    (hes : es.filterMap f = []) (hQ : ∀ p e, f e = none → Q p e) : Throughout Q past es := by
  induction es generalizing past with
  | nil => trivial
  | cons e es ih =>
    have hnone := List.filterMap_eq_nil_iff.1 hes
    refine ⟨hQ past e (hnone e List.mem_cons_self), ih (List.filterMap_eq_nil_iff.2 ?_)⟩
    exact fun x hx ↦ hnone x (List.mem_cons_of_mem e hx)

/-! ### Counting with the past in view -/

/-- The number of events of a journal of which, with all that came before them, something holds. -/
def tally (q : List Event → Event → Bool) : List Event → List Event → Nat
  | _, [] => 0
  | past, e :: es => (q past e).toNat + tally q (past ++ [e]) es

theorem tally_append (q : List Event → Event → Bool) (past xs ys : List Event) :
    tally q past (xs ++ ys) = tally q past xs + tally q (past ++ xs) ys := by
  induction xs generalizing past with
  | nil => simp [tally]
  | cons x xs ih =>
    rw [List.cons_append, tally, tally, ih, List.append_assoc, List.singleton_append, Nat.add_assoc]

end Journal

end TraceReconciler
