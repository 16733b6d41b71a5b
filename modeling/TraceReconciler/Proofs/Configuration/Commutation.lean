import Mathlib.Data.List.Pairwise
import Mathlib.Data.List.Perm.Basic
import TraceReconciler.Proofs.Configuration.Entries

/-!
# Which changes commute

Two changes can be seen to have been made in one order or the other exactly when they **conflict**:
both write to one entry, and not the same mark. Changes of different slots, of different sites or
for different processes never meet; changes that meet and agree leave what either would have left.

* `conflicts_iff` puts the conflict of two changes in terms of entries: they share a subject and a
  process, and their marks differ.
* `apply_comm` and `apply_ne_apply` are the two directions. The second needs no assumption about the
  configuration: the entry that both write to holds the mark of whichever came last.
* Changes no two of which conflict may be made in any order (`applyAll_perm`).
-/

namespace TraceReconciler

namespace Change

/-- **Two changes conflict.** -/
structure Conflicts (a b : Change) : Prop where
  /-- They are changes of the same slot, -/
  slot : a.feature.slot = b.feature.slot
  /-- and of the same site if it is the slot of the probes, -/
  site : ∀ s t, a.feature = .probe s → b.feature = .probe t → s = t
  /-- with a process in common, -/
  shared : ∃ p, p ∈ a.pids ∧ p ∈ b.pids
  /-- and either of opposite directions, or both switching on with different thresholds. -/
  opposed : a.enable ≠ b.enable ∨
    (a.enable = true ∧ b.enable = true ∧
      ∃ t u, a.feature = .sendMessage t ∧ b.feature = .sendMessage u ∧ t ≠ u)

end Change

/-- Features have the same subject if they have the same slot and, if they are probes, the same
site. -/
theorem Feature.subject_eq_iff {f g : Feature} :
    f.subject = g.subject ↔ f.slot = g.slot ∧ ∀ s t, f = .probe s → g = .probe t → s = t := by
  cases f <;> cases g <;> simp [subject, slot]

namespace Change

/-- Changes with the same subject leave different marks if their directions are opposite, or if both
switch on with different thresholds. -/
theorem mark?_ne_iff {a b : Change} (h : a.feature.slot = b.feature.slot) :
    a.mark? ≠ b.mark? ↔ a.enable ≠ b.enable ∨
      (a.enable = true ∧ b.enable = true ∧
        ∃ t u, a.feature = .sendMessage t ∧ b.feature = .sendMessage u ∧ t ≠ u) := by
  obtain ⟨f, e, pids⟩ := a
  obtain ⟨g, e', pids'⟩ := b
  cases f <;> cases g <;> cases h <;> cases e <;> cases e' <;>
    simp [mark?, Feature.threshold?]

theorem conflicts_iff {a b : Change} :
    a.Conflicts b ↔ a.feature.subject = b.feature.subject ∧
      (∃ p, p ∈ a.pids ∧ p ∈ b.pids) ∧ a.mark? ≠ b.mark? := by
  constructor
  · intro h
    exact ⟨Feature.subject_eq_iff.2 ⟨h.slot, h.site⟩, h.shared, (mark?_ne_iff h.slot).2 h.opposed⟩
  · rintro ⟨hsubject, hshared, hmark⟩
    obtain ⟨hslot, hsite⟩ := Feature.subject_eq_iff.1 hsubject
    exact ⟨hslot, hsite, hshared, (mark?_ne_iff hslot).1 hmark⟩

instance (a b : Change) : Decidable (a.Conflicts b) :=
  decidable_of_iff (a.feature.subject = b.feature.subject ∧
    (∃ p ∈ a.pids.toList, p ∈ b.pids) ∧ a.mark? ≠ b.mark?) conflicts_iff.symm

/-- Two switches of the same process to different thresholds conflict. -/
example : Conflicts ⟨.sendMessage 5, true, .ofList [1]⟩ ⟨.sendMessage 6, true, .ofList [1, 2]⟩ := by
  decide

theorem Conflicts.symm {a b : Change} (h : a.Conflicts b) : b.Conflicts a := by
  obtain ⟨hsubject, ⟨p, ha, hb⟩, hmark⟩ := conflicts_iff.1 h
  exact conflicts_iff.2 ⟨hsubject.symm, ⟨p, hb, ha⟩, hmark.symm⟩

/-- No change conflicts with itself. -/
theorem not_conflicts_self (a : Change) : ¬ a.Conflicts a := fun h ↦
  (conflicts_iff.1 h).2.2 rfl

end Change

namespace Configuration

/-- Two changes that do not conflict agree on every entry that both write to. -/
theorem mark?_eq_of_not_conflicts {a b : Change} (h : ¬ a.Conflicts b) {t : Subject} {p : Pid}
    (ha : a.WritesTo t p) (hb : b.WritesTo t p) : a.mark? = b.mark? := by
  by_contra hne
  exact h (Change.conflicts_iff.2 ⟨ha.1.trans hb.1.symm, ⟨p, ha.2, hb.2⟩, hne⟩)

/-- **Changes that do not conflict commute.** -/
theorem apply_comm (c : Configuration) {a b : Change} (h : ¬ a.Conflicts b) :
    (c.apply a).apply b = (c.apply b).apply a := by
  refine eq_of_mark? (fun t p ↦ ?_) fun s ↦ ?_
  · simp only [mark?_apply]
    by_cases ha : a.WritesTo t p
    · by_cases hb : b.WritesTo t p
      · rw [if_pos hb, if_pos ha, mark?_eq_of_not_conflicts h ha hb]
      · rw [if_neg hb, if_pos ha, if_pos ha]
    · rw [if_neg ha, if_neg ha]
  · rw [Bool.eq_iff_iff]
    simp only [isAbsent_apply]
    exact and_right_comm

/-- **Changes that conflict never commute.** -/
theorem apply_ne_apply (c : Configuration) {a b : Change} (h : a.Conflicts b) :
    (c.apply a).apply b ≠ (c.apply b).apply a := by
  obtain ⟨hsubject, ⟨p, ha, hb⟩, hmark⟩ := Change.conflicts_iff.1 h
  have hwrites : a.WritesTo b.feature.subject p := ⟨hsubject, ha⟩
  have hwrites' : b.WritesTo b.feature.subject p := ⟨rfl, hb⟩
  intro heq
  have hentry : b.mark? = a.mark? := by
    calc b.mark? = ((c.apply a).apply b).mark? b.feature.subject p := by
          rw [mark?_apply, if_pos hwrites']
      _ = ((c.apply b).apply a).mark? b.feature.subject p := by rw [heq]
      _ = a.mark? := by rw [mark?_apply, if_pos hwrites]
  exact hmark hentry.symm

/-- Changes no two of which conflict may be made in any order. -/
theorem applyAll_perm (c : Configuration) {l m : List Change} (h : l.Perm m)
    (hl : l.Pairwise fun a b ↦ ¬ a.Conflicts b) : c.applyAll l = c.applyAll m := by
  have hsymm : Std.Symm fun a b : Change ↦ ¬ a.Conflicts b := ⟨fun _ _ hab hba ↦ hab hba.symm⟩
  have hpairs := hl.forall_of_forall fun a _ ↦ a.not_conflicts_self
  exact h.foldl_eq' (fun a ha b hb d ↦ d.apply_comm (hpairs ha hb)) c

/-- **Exactly the conflicting changes fail to commute**, on every configuration. So changes that are
pairwise free of conflicts lead to the same configuration in whichever order they are made. -/
theorem commute_iff_not_conflicts (c : Configuration) :
    (∀ a b, (c.apply a).apply b = (c.apply b).apply a ↔ ¬ a.Conflicts b) ∧
    ∀ l m : List Change, l.Perm m → (l.Pairwise fun a b ↦ ¬ a.Conflicts b) →
      c.applyAll l = c.applyAll m := by
  refine ⟨fun a b ↦ ⟨fun heq h ↦ ?_, c.apply_comm⟩, fun l m h hl ↦ c.applyAll_perm h hl⟩
  exact c.apply_ne_apply h heq

/-- Changes that overlap and agree, next to one that only looks like their opposite: the same
processes, at another site. -/
theorem commute_iff_not_conflicts_agreeing :
    let on : Change := ⟨.sendMessage 5, true, .ofList [1, 2]⟩
    let again : Change := ⟨.sendMessage 5, true, .ofList [2, 3]⟩
    let probe : Change := ⟨.probe ⟨"f", "m", 0⟩, true, .ofList [2]⟩
    let off : Change := ⟨.probe ⟨"g", "m", 0⟩, false, .ofList [2]⟩
    [on, again, probe, off].Perm [off, again, probe, on] ∧
      ([on, again, probe, off].Pairwise fun a b ↦ ¬ a.Conflicts b) ∧
      empty.applyAll [on, again, probe, off] = empty.applyAll [off, again, probe, on] :=
  ⟨by decide, by decide, (commute_iff_not_conflicts empty).2 _ _ (by decide) (by decide)⟩

end Configuration

end TraceReconciler
