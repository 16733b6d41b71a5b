import TraceReconciler.Proofs.Configuration.RoundTrip

/-!
# Features, changes and actions survive being written, in any order

The types that carry a name, and those made of them: a feature and an action have their name inside
their content, a delta has its direction beside its processes, and changes and options hold a
feature. Each is restored from any reordering of what is written of it, so a name may stand first,
last or in between, also in a feature inside a change inside an action.

What stands before a name is kept until the name is known, and what stands beside the name of a
feature or an action is always read from what was kept of it. Nothing here can be lost on the way:
numbers, texts, truth values and sets of processes read the same from a kept value as from a live
text, and no map keyed by numbers is among them.
-/

namespace TraceReconciler

open Json

/-! ### What can be kept -/

theorem keepable_pidSet (s : PidSet) : Keepable 1 s.toJson := by
  refine Keepable.array fun x hx ↦ ?_
  obtain ⟨p, -, rfl⟩ := List.mem_map.1 hx
  exact keepable_nat 0 (Nat.lt_trans p.toNat_lt (by decide))

theorem keepable_feature (f : Feature) : Keepable 1 f.toJson := by
  have hname (s : String) := keepable_string 0 s
  have hnat (n : UInt64) : Keepable 0 (.nat n.toNat) := keepable_nat 0 n.toNat_lt
  cases f <;> exact Keepable.object (by simp [hname, hnat])

/-! ### Features -/

/-- A payload of one threshold, kept in any order. -/
theorem Feature.decode_threshold (t : Threshold) {v : Value}
    (hv : Reordered (.object [("threshold", .nat t.toNat)]) v) :
    Feature.thresholdRecord.decode .kept v.node = .ok (.sendMessage t) := by
  refine Record.decode_reordered (fun _ _ _ ↦ rfl) (fun o ho ↦ .cons (fun w hw ↦
    ⟨word64, rfl, inAnyOrder_word64 0 o t w ho hw⟩) .nil) (by simp) (fun ws hws ↦ ?_)
    (Origin.allows_kept 1) hv
  obtain rfl := List.perm_singleton.1 hws
  rfl

/-- A payload of one site, kept in any order. -/
theorem Feature.decode_site (s : Site) {v : Value}
    (hv : Reordered (.object [("functionName", .string s.function),
      ("targetModule", .string s.module), ("offset", .nat s.offset.toNat)]) v) :
    Feature.siteRecord.decode .kept v.node = .ok (.probe s) := by
  refine Record.decode_reordered (fun _ _ _ ↦ rfl) (fun o ho ↦
    .cons (.of_restores (inAnyOrder_string 0) ho rfl s.function)
      (.cons (.of_restores (inAnyOrder_string 0) ho rfl s.module)
        (.cons (.of_restores (inAnyOrder_word64 0) ho rfl s.offset) .nil)))
    (by simp) (fun ws hws ↦ ?_) (Origin.allows_kept 1) hv
  have hfunction := findSome?_of_perm (f := ProbeField.function?) hws rfl
  have hmodule := findSome?_of_perm (f := ProbeField.module?) hws rfl
  have hoffset := findSome?_of_perm (f := ProbeField.offset?) hws rfl
  rw [hfunction, hmodule, hoffset]
  rfl

/-- A feature without a payload does not look at what stands beside its name. -/
theorem noFields_reordered {α : Type} (a : α) {o : Origin} {l : List (String × Value)} {v : Value}
    (hv : Reordered (.object l) v) : noFields a o v.node = .ok a := by
  obtain ⟨m, m', rfl, -⟩ := hv.exists_of_object
  rfl

/-- **A feature is restored**, its payload from the members around its name. -/
theorem inAnyOrder_feature : RestoresInAnyOrder 1 Feature.decode Feature.toJson := by
  intro o f w ho hw
  rw [Feature.decode]
  cases f with
  | sendMessage t =>
    refine tagged_reordered hw ho rfl (by simp) ?_ fun v ↦ Feature.decode_threshold t
    simpa using keepable_nat 0 t.toNat_lt
  | probe s =>
    refine tagged_reordered hw ho rfl (by simp) ?_ fun v ↦ Feature.decode_site s
    simpa using ⟨keepable_string 0 s.function, keepable_string 0 s.module,
      keepable_nat 0 s.offset.toNat_lt⟩
  | _ => exact tagged_reordered hw ho rfl (by simp) (by simp) fun v ↦ noFields_reordered _

/-! ### Deltas -/

/-- **A delta is restored**, its processes before or after its direction. -/
theorem inAnyOrder_delta : RestoresInAnyOrder 2 PidDelta.decode PidDelta.toJson := by
  intro o d w ho hw
  have hpids (make : PidSet → PidDelta) (s : PidSet) (o : Origin) (v : Value) (ho : o.Allows 1)
      (hv : Reordered s.toJson v) : PidDelta.adjacent.decode make o v.node = .ok (make s) := by
    show make <$> PidSet.decode o v.node = _
    rw [inAnyOrder_pidSet o s v ho hv]
    rfl
  cases d with
  | add s =>
    exact PidDelta.adjacent.decode_pair rfl (by decide) (keepable_pidSet s) (hpids _ s) ho hw
  | remove s =>
    exact PidDelta.adjacent.decode_pair rfl (by decide) (keepable_pidSet s) (hpids _ s) ho hw

/-! ### Changes, actions and options -/

/-- **A change is restored.** -/
theorem inAnyOrder_change : RestoresInAnyOrder 2 Change.decode Change.toJson := by
  intro o c w ho hw
  refine Record.decode_reordered (fun _ _ _ ↦ rfl) (fun o ho ↦
    .cons (.of_restores inAnyOrder_feature ho rfl c.feature)
      (.cons (.of_restores (inAnyOrder_boolean 1) ho rfl c.enable)
        (.cons (.of_restores inAnyOrder_pidSet ho rfl c.pids) .nil)))
    (by simp) (fun ws hws ↦ ?_) ho hw
  have hfeature := findSome?_of_perm (f := ChangeField.feature?) hws rfl
  have henable := findSome?_of_perm (f := ChangeField.enable?) hws rfl
  have hpids := findSome?_of_perm (f := ChangeField.pids?) hws rfl
  rw [hfeature, henable, hpids]
  rfl

theorem restores_change (room : Nat) :
    Restores Change.decode (.live (room + 2)) Change.toJson :=
  inAnyOrder_change.restores (Nat.le_add_left 2 room)

/-- **An option is restored.** -/
theorem inAnyOrder_option : RestoresInAnyOrder 2 FeatureOption.decode FeatureOption.toJson := by
  intro o x w ho hw
  refine Record.decode_reordered (fun _ _ _ ↦ rfl) (fun o ho ↦
    .cons (.of_restores inAnyOrder_feature ho rfl x.feature)
      (.cons (.of_restores (inAnyOrder_boolean 1) ho rfl x.enabled)
        (.cons (.of_restores inAnyOrder_pidSet ho rfl x.pids) .nil)))
    (by simp) (fun ws hws ↦ ?_) ho hw
  have hfeature := findSome?_of_perm (f := ChangeField.feature?) hws rfl
  have henabled := findSome?_of_perm (f := ChangeField.enable?) hws rfl
  have hpids := findSome?_of_perm (f := ChangeField.pids?) hws rfl
  rw [hfeature, henabled, hpids]
  rfl

/-- The members of a change can be kept. -/
theorem keepable_changeMembers (c : Change) : ∀ m ∈ c.members, Keepable 1 m.2 := by
  simpa [Change.members] using
    ⟨keepable_feature c.feature, keepable_boolean 1 c.enable, keepable_pidSet c.pids⟩

/-- **An action is restored**, its change from the members around its name. -/
theorem inAnyOrder_action : RestoresInAnyOrder 2 Action.decode Action.toJson := by
  intro o a w ho hw
  rw [Action.decode]
  cases a with
  | change c =>
    refine tagged_reordered hw ho rfl (by simp [Change.members]) (keepable_changeMembers c)
      fun v hv ↦ ?_
    show Action.change <$> Change.decode .kept v.node = _
    rw [inAnyOrder_change .kept c v (Origin.allows_kept 2) hv]
    rfl
  | _ => exact tagged_reordered hw ho rfl (by simp) (by simp) fun v ↦ noFields_reordered _

end TraceReconciler
