import TraceReconciler.Proofs.Configuration.Commutation

/-!
# Which changes can be left out

A change leaves two things behind: its mark in the entries that it writes to, and the slot of its
feature, which is there from then on. Later changes **supersede** it if they write to each of these
entries again and one of them is a change of the slot. Nothing is then left of it, whichever of them
came last, in which direction and with which threshold, and whatever else was changed in between.

* `applyAll_apply_of_supersededBy` drops the change in front of those that supersede it.
* `supersededBy_of_applyAll_apply` is the converse: no other change can be left out on every
  configuration. A change of the slot that the configuration lacks is needed in any case, except for
  probes, whose slot is never absent.
-/

namespace TraceReconciler

namespace Change

/-- **Later changes supersede a change.** -/
structure SupersededBy (a : Change) (ys : List Change) : Prop where
  /-- One of them is a change of its slot, -/
  slot : ∃ y ∈ ys, y.feature.slot = a.feature.slot
  /-- and for each of its processes there is one of its slot and, if it is the slot of the probes,
  of its site. -/
  entries : ∀ p ∈ a.pids, ∃ y ∈ ys, y.feature.slot = a.feature.slot ∧
    (∀ s t, y.feature = .probe s → a.feature = .probe t → s = t) ∧ p ∈ y.pids

variable {a : Change} {ys : List Change}

/-- What a change is superseded by, in terms of entries. -/
theorem supersededBy_iff : a.SupersededBy ys ↔
    (∃ y ∈ ys, y.feature.slot = a.feature.slot) ∧
      ∀ p ∈ a.pids, ∃ y ∈ ys, y.WritesTo a.feature.subject p := by
  have hwrites (y : Change) (p : Pid) : y.WritesTo a.feature.subject p ↔
      y.feature.slot = a.feature.slot ∧
        (∀ s t, y.feature = .probe s → a.feature = .probe t → s = t) ∧ p ∈ y.pids := by
    rw [WritesTo, Feature.subject_eq_iff, and_assoc]
  simp only [hwrites]
  exact ⟨fun h ↦ ⟨h.slot, h.entries⟩, fun h ↦ ⟨h.1, h.2⟩⟩

instance (a : Change) (ys : List Change) : Decidable (a.SupersededBy ys) :=
  decidable_of_iff _ supersededBy_iff.symm

/-- Every entry that a superseded change writes to is written to again. -/
theorem SupersededBy.exists_writesTo (h : a.SupersededBy ys) {t : Subject} {p : Pid}
    (ha : a.WritesTo t p) : ∃ y ∈ ys, y.WritesTo t p :=
  ha.1 ▸ (supersededBy_iff.1 h).2 p ha.2

/-- A change is superseded by any change of the same feature for the same processes. -/
theorem supersededBy_singleton {b : Change} (hfeature : b.feature = a.feature)
    (hpids : b.pids = a.pids) : a.SupersededBy [b] :=
  supersededBy_iff.2 ⟨⟨b, List.mem_singleton_self b, by rw [hfeature]⟩, fun p hp ↦
    ⟨b, List.mem_singleton_self b, by rw [hfeature], hpids ▸ hp⟩⟩

end Change

namespace Configuration

variable (c : Configuration) {a : Change} {ys : List Change}

/-- **Nothing is left of a superseded change.** -/
theorem applyAll_apply_of_supersededBy (h : a.SupersededBy ys) :
    (c.apply a).applyAll ys = c.applyAll ys := by
  refine eq_of_mark? (fun t p ↦ ?_) fun s ↦ ?_
  · rw [mark?_applyAll, mark?_applyAll]
    cases hlast : lastWriter? ys t p with
    | some x => rfl
    | none =>
      have ha : ¬ a.WritesTo t p := fun ha ↦ by
        obtain ⟨y, hy, hwrites⟩ := h.exists_writesTo ha
        exact lastWriter?_eq_none_iff.1 hlast y hy hwrites
      exact (mark?_apply c a t p).trans (if_neg ha)
  · obtain ⟨y, hy, hslot⟩ := h.slot
    rw [Bool.eq_iff_iff, isAbsent_applyAll, isAbsent_applyAll, isAbsent_apply, and_assoc]
    refine and_congr_right fun _ ↦ and_iff_right_of_imp fun hys ↦ ?_
    exact hslot ▸ hys y hy

/-- A change after which an entry that it writes to is not written to again can be seen, on a
configuration in which the entry has another mark. -/
theorem exists_applyAll_apply_ne {p : Pid} (hp : p ∈ a.pids)
    (hys : ∀ y ∈ ys, ¬ y.WritesTo a.feature.subject p) :
    ∃ c : Configuration, (c.apply a).applyAll ys ≠ c.applyAll ys := by
  -- The opposite change for the same processes leaves the other mark.
  let b : Change := { a with enable := !a.enable }
  have hlast := lastWriter?_eq_none_iff.2 hys
  have hafter : (((empty.apply b).apply a).applyAll ys).mark? a.feature.subject p = a.mark? := by
    rw [mark?_applyAll, hlast]
    exact (mark?_apply _ a _ p).trans (if_pos ⟨rfl, hp⟩)
  have hbefore : ((empty.apply b).applyAll ys).mark? a.feature.subject p = b.mark? := by
    rw [mark?_applyAll, hlast]
    exact (mark?_apply _ b _ p).trans (if_pos ⟨rfl, hp⟩)
  refine ⟨empty.apply b, fun heq ↦ ?_⟩
  have hmark : a.mark? = b.mark? := hafter.symm.trans (heq ▸ hbefore)
  revert hmark
  cases h : a.enable <;> simp [Change.mark?, b, h]

/-- **No other change can be left out** of every list of changes to every configuration; only what a
change of probes does for the slot is done already. -/
theorem supersededBy_of_applyAll_apply (hslot : a.feature.slot ≠ .probe)
    (h : ∀ c : Configuration, (c.apply a).applyAll ys = c.applyAll ys) : a.SupersededBy ys := by
  refine Change.supersededBy_iff.2 ⟨?_, fun p hp ↦ ?_⟩
  · by_contra hnone
    have hys : ∀ y ∈ ys, y.feature.slot ≠ a.feature.slot := fun y hy heq ↦ hnone ⟨y, hy, heq⟩
    have habsent : ((empty : Configuration).content a.feature.slot).isAbsent = true := by
      cases hs : a.feature.slot <;> first | rfl | exact absurd hs hslot
    have hkept := (isAbsent_applyAll empty ys a.feature.slot).2 ⟨habsent, hys⟩
    rw [← h, isAbsent_applyAll, isAbsent_apply] at hkept
    exact hkept.1.2 rfl
  · by_contra hnone
    have hys : ∀ y ∈ ys, ¬ y.WritesTo a.feature.subject p := fun y hy hw ↦ hnone ⟨y, hy, hw⟩
    obtain ⟨c, hne⟩ := exists_applyAll_apply_ne hp hys
    exact hne (h c)

/-- **A superseded change can be dropped** from any list of changes to any configuration. A change
that is made again at once is one, so every change is idempotent. -/
theorem applyAll_drop_superseded (c : Configuration) :
    (∀ (xs : List Change) (a : Change) (ys : List Change), a.SupersededBy ys →
      c.applyAll (xs ++ [a] ++ ys) = c.applyAll (xs ++ ys)) ∧
    ∀ a, (c.apply a).apply a = c.apply a := by
  refine ⟨fun xs a ys h ↦ ?_, fun a ↦ ?_⟩
  · calc c.applyAll (xs ++ [a] ++ ys)
        = ((c.applyAll xs).apply a).applyAll ys := by rw [applyAll_append, applyAll_concat]
      _ = (c.applyAll xs).applyAll ys := applyAll_apply_of_supersededBy _ h
      _ = c.applyAll (xs ++ ys) := (applyAll_append c xs ys).symm
  · exact c.applyAll_apply_of_supersededBy (Change.supersededBy_singleton rfl rfl)

/-- A change of thresholds superseded by two later ones together, of either direction, with a change
of probes in between. -/
theorem applyAll_drop_superseded_jointly :
    let on : Change := ⟨.sendMessage 5, true, .ofList [1, 2]⟩
    let off : Change := ⟨.sendMessage 9, false, .ofList [1]⟩
    let probe : Change := ⟨.probe ⟨"f", "m", 0⟩, true, .ofList [2]⟩
    let again : Change := ⟨.sendMessage 6, true, .ofList [2, 3]⟩
    on.SupersededBy [off, probe, again] ∧
      empty.applyAll ([probe] ++ [on] ++ [off, probe, again]) =
        empty.applyAll ([probe] ++ [off, probe, again]) :=
  ⟨by decide, (applyAll_drop_superseded empty).1 _ _ _ (by decide)⟩

end Configuration

end TraceReconciler
