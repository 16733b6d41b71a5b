import TraceReconciler.Proofs.Configuration.Entries

/-!
# Which features are on

A feature that is switched per process is on for a process, or it is not; a threshold may also be
another one than the feature's (`IsOnAs`, `IsOn`). A slot has been configured if it is there, even
if it is on for nobody (`IsConfigured`).

With these words it can be said **when a change changes nothing**: its slot is there, and all its
processes are already as it leaves them (`apply_eq_self_iff`).
-/

namespace TraceReconciler.Configuration

variable (c : Configuration)

/-- A feature is on for a process just as the feature has it: at its threshold, or at its site. -/
def IsOnAs : Feature → Pid → Prop
  | .sendMessage t, p => (c.sendMessage.getD ∅).get? p = some t
  | .probe s, p => (⟨s, p⟩ : Probe) ∈ c.probes
  | f, p => c.isEnabledFor f.slot p = true

/-- A feature is on for a process, at whatever threshold. -/
def IsOn : Feature → Pid → Prop
  | .probe s, p => (⟨s, p⟩ : Probe) ∈ c.probes
  | f, p => c.isEnabledFor f.slot p = true

/-- A slot is there. The one of the probes always is. -/
def IsConfigured (s : Slot) : Prop := (c.content s).isAbsent = false

theorem isConfigured_probe : c.IsConfigured .probe := rfl

instance (s : Slot) : Decidable (c.IsConfigured s) := inferInstanceAs (Decidable (_ = false))

/-! ### In terms of entries -/

theorem isEnabledFor_iff_mark? {s : Slot} (h : s ≠ .probe) {p : Pid} :
    c.isEnabledFor s p = true ↔ (c.mark? (.slot s) p).isSome = true :=
  isEnabledFor_iff.trans (c.mem_pids_iff h)

/-- A set marks its members in one way only. -/
theorem isEnabledFor_iff_mark?_eq {s : Slot} (h : s ≠ .probe) (h' : s ≠ .sendMessage) {p : Pid} :
    c.isEnabledFor s p = true ↔ c.mark? (.slot s) p = some none := by
  have hset (t : PidSet) : (t.mark? p).isSome = true ↔ t.mark? p = some none := by
    by_cases hp : p ∈ t <;> simp [SortedSet.mark?, hp]
  rw [c.isEnabledFor_iff_mark? h]
  cases s with
  | probe => exact absurd rfl h
  | sendMessage => exact absurd rfl h'
  | _ => exact hset _

theorem isOnAs_iff {f : Feature} {p : Pid} :
    c.IsOnAs f p ↔ c.mark? f.subject p = some f.threshold? := by
  cases f with
  | sendMessage t =>
    show (c.sendMessage.getD ∅).get? p = some t ↔
      ((c.sendMessage.getD ∅).get? p).map some = some (some t)
    cases (c.sendMessage.getD ∅).get? p <;> simp
  | probe s =>
    show (⟨s, p⟩ : Probe) ∈ c.probes ↔ c.probes.mark? ⟨s, p⟩ = some none
    by_cases h : (⟨s, p⟩ : Probe) ∈ c.probes <;> simp [SortedSet.mark?, h]
  | _ => exact c.isEnabledFor_iff_mark?_eq (by decide) (by decide)

theorem isOn_iff {f : Feature} {p : Pid} :
    c.IsOn f p ↔ (c.mark? f.subject p).isSome = true := by
  cases f with
  | probe s => exact c.mem_probes_iff (q := ⟨s, p⟩)
  | _ => exact c.isEnabledFor_iff_mark? (by exact nofun)

theorem not_isOn_iff {f : Feature} {p : Pid} : ¬ c.IsOn f p ↔ c.mark? f.subject p = none := by
  rw [isOn_iff, Bool.not_eq_true, Option.isSome_eq_false_iff, Option.isNone_iff_eq_none]

instance (f : Feature) (p : Pid) : Decidable (c.IsOnAs f p) := decidable_of_iff _ c.isOnAs_iff.symm

instance (f : Feature) (p : Pid) : Decidable (c.IsOn f p) := decidable_of_iff _ c.isOn_iff.symm

/-! ### Changes that change nothing -/

/-- **A change changes nothing** if its slot is there and its processes have its mark already. -/
theorem apply_eq_self_iff {x : Change} : c.apply x = c ↔
    c.IsConfigured x.feature.slot ∧ ∀ p ∈ x.pids, c.mark? x.feature.subject p = x.mark? := by
  constructor
  · intro h
    refine ⟨?_, fun p hp ↦ ?_⟩
    · have habsent := c.isAbsent_apply x x.feature.slot
      rw [h] at habsent
      exact Bool.eq_false_iff.2 fun hc ↦ (habsent.1 hc).2 rfl
    · have hmark := c.mark?_apply x x.feature.subject p
      rwa [h, if_pos ⟨rfl, hp⟩] at hmark
  · rintro ⟨hslot, hmarks⟩
    refine eq_of_mark? (fun t p ↦ ?_) fun s ↦ ?_
    · rw [mark?_apply]
      split
      · next hwrites =>
        obtain ⟨rfl, hp⟩ := hwrites
        exact (hmarks p hp).symm
      · rfl
    · rw [Bool.eq_iff_iff, isAbsent_apply]
      refine and_iff_left_of_imp fun habsent heq ↦ ?_
      exact Bool.false_ne_true (hslot.symm.trans (heq ▸ habsent))

/-- Switching a feature on changes nothing if it is on for these processes, just so. -/
theorem apply_on_eq_self_iff {f : Feature} {pids : PidSet} :
    c.apply ⟨f, true, pids⟩ = c ↔ c.IsConfigured f.slot ∧ ∀ p ∈ pids, c.IsOnAs f p := by
  simp only [isOnAs_iff]
  exact c.apply_eq_self_iff

/-- Switching a feature off changes nothing if it is on for none of these processes. -/
theorem apply_off_eq_self_iff {f : Feature} {pids : PidSet} :
    c.apply ⟨f, false, pids⟩ = c ↔ c.IsConfigured f.slot ∧ ∀ p ∈ pids, ¬ c.IsOn f p := by
  simp only [not_isOn_iff]
  exact c.apply_eq_self_iff

end TraceReconciler.Configuration
