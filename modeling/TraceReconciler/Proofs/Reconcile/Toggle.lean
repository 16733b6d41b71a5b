import TraceReconciler.Proofs.Configuration.Supersession
import TraceReconciler.Proofs.Configuration.Switched
import TraceReconciler.Proofs.Reconcile.Collapse

/-!
# When switching back and forth cancels out

A feature is switched for some processes and then switched back. The second change supersedes the
first, so the state is that after the second change alone, and the edits cancel out exactly when the
second change changes nothing: not when the feature is off again, but when it was as the second
change leaves it from the start, for each of the processes, and its slot was there.
-/

namespace TraceReconciler.State

/-- Two changes of one feature for the same processes end where the second one alone does. -/
theorem afterEdits_pair (c : Configuration) {a b : Change} (hfeature : b.feature = a.feature)
    (hpids : b.pids = a.pids) : (synchronized c).afterEdits [a, b] = compare (c.apply b) c := by
  have hdrop := c.applyAll_apply_of_supersededBy (Change.supersededBy_singleton hfeature hpids)
  rw [afterEdits_synchronized, Configuration.applyAll_cons, hdrop]
  rfl

theorem compare_eq_synchronized_iff {l b : Configuration} :
    compare l b = .synchronized b ↔ l = b := by
  refine ⟨fun h ↦ ?_, fun h ↦ h ▸ compare_self l⟩
  by_contra hne
  rw [compare_of_ne hne] at h
  cases h

/-- **When a toggle cancels out.** Off and on again leaves the state as it was if the slot of the
feature was there and the feature was on for all processes concerned, at its threshold or site; on
and off again does if the slot was there and the feature was on for none of them, at any threshold.
Otherwise the state is diverged, with what the second change alone makes of the configuration. -/
theorem toggle_cancels_iff (c : Configuration) (f : Feature) (pids : PidSet) :
    let off : Change := ⟨f, false, pids⟩
    let on : Change := ⟨f, true, pids⟩
    ((synchronized c).afterEdits [off, on] = .synchronized c ↔
      c.IsConfigured f.slot ∧ ∀ p ∈ pids, c.IsOnAs f p) ∧
    ((synchronized c).afterEdits [on, off] = .synchronized c ↔
      c.IsConfigured f.slot ∧ ∀ p ∈ pids, ¬ c.IsOn f p) ∧
    (¬ (c.IsConfigured f.slot ∧ ∀ p ∈ pids, c.IsOnAs f p) →
      (synchronized c).afterEdits [off, on] = .diverged (c.apply on) c) ∧
    (¬ (c.IsConfigured f.slot ∧ ∀ p ∈ pids, ¬ c.IsOn f p) →
      (synchronized c).afterEdits [on, off] = .diverged (c.apply off) c) := by
  intro off on
  have hon : (synchronized c).afterEdits [off, on] = compare (c.apply on) c :=
    afterEdits_pair c rfl rfl
  have hoff : (synchronized c).afterEdits [on, off] = compare (c.apply off) c :=
    afterEdits_pair c rfl rfl
  rw [hon, hoff, compare_eq_synchronized_iff, compare_eq_synchronized_iff]
  refine ⟨c.apply_on_eq_self_iff, c.apply_off_eq_self_iff, fun h ↦ ?_, fun h ↦ ?_⟩
  · exact compare_of_ne fun heq ↦ h (c.apply_on_eq_self_iff.1 heq)
  · exact compare_of_ne fun heq ↦ h (c.apply_off_eq_self_iff.1 heq)

/-- A process traced at another threshold: switched off and on again, it is at the new threshold;
switched on and off again, it is traced no longer. -/
theorem toggle_cancels_iff_at_other_threshold :
    let c : Configuration := { sendMessage := some (.ofList [(7, 5)]) }
    let off : Change := ⟨.sendMessage 6, false, .ofList [7]⟩
    let on : Change := ⟨.sendMessage 6, true, .ofList [7]⟩
    (¬ (c.IsConfigured .sendMessage ∧ ∀ p ∈ (.ofList [7] : PidSet), c.IsOnAs (.sendMessage 6) p) ∧
      (synchronized c).afterEdits [off, on] = .diverged (c.apply on) c) ∧
    (¬ (c.IsConfigured .sendMessage ∧ ∀ p ∈ (.ofList [7] : PidSet), ¬ c.IsOn (.sendMessage 6) p) ∧
      (synchronized c).afterEdits [on, off] = .diverged (c.apply off) c) := by
  intro c off on
  obtain ⟨-, -, hon, hoff⟩ := toggle_cancels_iff c (.sendMessage 6) (.ofList [7])
  exact ⟨⟨by decide, hon (by decide)⟩, by decide, hoff (by decide)⟩

end TraceReconciler.State
