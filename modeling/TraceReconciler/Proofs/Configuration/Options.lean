import TraceReconciler.Configuration.Projection
import TraceReconciler.Proofs.Configuration.Entries

/-!
# Options say what a configuration says

The options of a configuration are one for each feature that is switched per process and one for
each probe in a relevant process (`mem_options_iff`). Which processes are relevant decides which
probes are listed and what is shown as enabled, and only by which processes they are, not by how
they are listed.

**If no probe is left out, nothing is lost**: an entry is on exactly if one of the options, switched
on for its processes, writes to it (`exists_writesTo_slot_iff`, `exists_writesTo_site_iff`). So all
options together bring about every entry again, without the thresholds, of which an option knows but
one, and without the slots that are there for nobody.
-/

namespace TraceReconciler

/-- The change that switches an option's feature on for the processes of the option. -/
def FeatureOption.switchOn (o : FeatureOption) : Change := ⟨o.feature, true, o.pids⟩

namespace Configuration

variable (c : Configuration) {relevant : List Pid}

/-! ### What is listed -/

/-- The features that have one option each are one for each slot but that of the probes. -/
theorem map_slot_switches : c.switches.map Feature.slot = Slot.all.filter (· ≠ .probe) := rfl

theorem slot_ne_probe_of_mem_switches {f : Feature} (h : f ∈ c.switches) : f.slot ≠ .probe := by
  have hslot : f.slot ∈ Slot.all.filter (· ≠ .probe) :=
    c.map_slot_switches ▸ List.mem_map_of_mem h
  simpa using (List.mem_filter.1 hslot).2

theorem exists_mem_switches {s : Slot} (h : s ≠ .probe) : ∃ f ∈ c.switches, f.slot = s := by
  have hslot : s ∈ c.switches.map Feature.slot := by
    rw [map_slot_switches]
    cases s <;> first | decide | exact absurd rfl h
  exact List.mem_map.1 hslot

theorem mem_options_iff {o : FeatureOption} : o ∈ c.options relevant ↔
    (∃ f ∈ c.switches, o = c.optionOf relevant f) ∨
      ∃ q, (q ∈ c.probes ∧ q.pid ∈ relevant) ∧ o = probeOption q := by
  simp [options, SortedSet.mem_toList, eq_comm (a := o)]

/-- An option of the first kind shows what can be asked about each process. -/
theorem mem_pids_optionOf {f : Feature} {p : Pid} :
    p ∈ (c.optionOf relevant f).pids ↔ c.isEnabledFor f.slot p = true := isEnabledFor_iff.symm

theorem enabled_optionOf {f : Feature} : (c.optionOf relevant f).enabled = true ↔
    ∃ p ∈ relevant, c.isEnabledFor f.slot p = true := by
  simp [optionOf, isEnabledFor_iff]

/-- **It does not matter how the relevant processes are listed.** -/
theorem options_congr {l m : List Pid} (h : ∀ p, p ∈ l ↔ p ∈ m) : c.options l = c.options m := by
  have hany (t : PidSet) : (l.any fun p ↦ decide (p ∈ t)) = m.any fun p ↦ decide (p ∈ t) := by
    rw [Bool.eq_iff_iff, List.any_eq_true, List.any_eq_true]
    exact exists_congr fun p ↦ and_congr_left fun _ ↦ h p
  have hswitch : c.optionOf l = c.optionOf m := funext fun f ↦ by
    rw [optionOf, optionOf, hany]
  have hprobe (q : Probe) : l.contains q.pid = m.contains q.pid := by
    rw [Bool.eq_iff_iff, List.contains_iff_mem, List.contains_iff_mem, h]
  rw [options, options, hswitch, funext hprobe]

/-! ### What the options write -/

/-- What is on after some changes that all switch on is what they write to. -/
theorem isSome_mark?_applyAll_empty {l : List Change} (h : ∀ x ∈ l, x.enable = true) (t : Subject)
    (p : Pid) : ((empty.applyAll l).mark? t p).isSome = true ↔ ∃ x ∈ l, x.WritesTo t p := by
  rw [mark?_applyAll]
  cases hlast : lastWriter? l t p with
  | some x =>
    have hx : x ∈ l := mem_of_lastWriter? hlast
    exact iff_of_true (Change.isSome_mark?.2 (h x hx)) ⟨x, hx, writesTo_of_lastWriter? hlast⟩
  | none =>
    dsimp only
    rw [mark?_empty]
    refine iff_of_false Bool.false_ne_true ?_
    rintro ⟨x, hx, hwrites⟩
    exact lastWriter?_eq_none_iff.1 hlast x hx hwrites

/-- The options write to a slot for the processes for which it is on. -/
theorem exists_writesTo_slot_iff {s : Slot} (h : s ≠ .probe) {p : Pid} :
    (∃ o ∈ c.options relevant, o.switchOn.WritesTo (.slot s) p) ↔ p ∈ c.pids s := by
  constructor
  · rintro ⟨o, ho, hsubject, hp⟩
    rcases c.mem_options_iff.1 ho with ⟨f, -, rfl⟩ | ⟨q, -, rfl⟩
    · obtain rfl : f.slot = s := Feature.slot_eq_of_subject hsubject
      exact hp
    · cases hsubject
  · intro hp
    obtain ⟨f, hf, rfl⟩ := c.exists_mem_switches h
    exact ⟨_, c.mem_options_iff.2 (.inl ⟨f, hf, rfl⟩), Feature.subject_eq_slot h, hp⟩

/-- The options write to a site for the relevant processes in which it has a probe. -/
theorem exists_writesTo_site_iff {q : Probe} :
    (∃ o ∈ c.options relevant, o.switchOn.WritesTo (.site q.site) q.pid) ↔
      q ∈ c.probes ∧ q.pid ∈ relevant := by
  constructor
  · rintro ⟨o, ho, hsubject, hp⟩
    rcases c.mem_options_iff.1 ho with ⟨f, hf, rfl⟩ | ⟨q', hq', rfl⟩
    · have hprobe : f = .probe q.site := Feature.eq_probe_of_subject hsubject
      exact absurd (hprobe ▸ rfl) (c.slot_ne_probe_of_mem_switches hf)
    · have hsite : q'.site = q.site := Subject.site.inj hsubject
      have hpid : q.pid = q'.pid := List.mem_singleton.1 (SortedSet.mem_ofList.1 hp)
      obtain rfl : q' = q := by
        cases q
        cases q'
        cases hsite
        cases hpid
        rfl
      exact hq'
  · intro hq
    exact ⟨_, c.mem_options_iff.2 (.inr ⟨q, hq, rfl⟩), rfl, SortedSet.mem_ofList.2 (by simp)⟩

/-- The configuration that options bring about from the empty one, each switched on for its
processes. -/
def rebuilt (options : List FeatureOption) : Configuration :=
  empty.applyAll (options.map FeatureOption.switchOn)

theorem isSome_mark?_rebuilt (options : List FeatureOption) (t : Subject) (p : Pid) :
    ((rebuilt options).mark? t p).isSome = true ↔
      ∃ o ∈ options, o.switchOn.WritesTo t p := by
  have hon : ∀ x ∈ options.map FeatureOption.switchOn, x.enable = true := by
    simp [FeatureOption.switchOn]
  rw [rebuilt, isSome_mark?_applyAll_empty hon]
  simp

theorem mem_probes_rebuilt {q : Probe} :
    q ∈ (rebuilt (c.options relevant)).probes ↔ q ∈ c.probes ∧ q.pid ∈ relevant := by
  rw [mem_probes_iff, isSome_mark?_rebuilt, exists_writesTo_site_iff]

/-- **The options bring the probes about again** if every probe is in a relevant process. -/
theorem probes_rebuilt (h : ∀ q ∈ c.probes, q.pid ∈ relevant) :
    (rebuilt (c.options relevant)).probes = c.probes :=
  SortedSet.ext_mem fun q ↦ c.mem_probes_rebuilt.trans (and_iff_left_of_imp (h q))

/-- **The options bring the processes of every slot about again.** -/
theorem pids_rebuilt (h : ∀ q ∈ c.probes, q.pid ∈ relevant) (s : Slot) :
    (rebuilt (c.options relevant)).pids s = c.pids s := by
  by_cases hs : s = .probe
  · subst hs
    rw [pids, pids, c.probes_rebuilt h]
  · refine SortedSet.ext_mem fun p ↦ ?_
    rw [mem_pids_iff _ hs, isSome_mark?_rebuilt, c.exists_writesTo_slot_iff hs]

theorem isEmpty_iff : c.isEmpty = true ↔ ∀ s p, p ∉ c.pids s := by
  have hall (s : Slot) : s ∈ Slot.all := by cases s <;> decide
  simp [isEmpty, List.all_eq_true, SortedSet.isEmpty_iff, hall]

/-- A configuration is empty if none of its options is for any process. -/
theorem isEmpty_iff_options (h : ∀ q ∈ c.probes, q.pid ∈ relevant) :
    c.isEmpty = true ↔ ∀ o ∈ c.options relevant, o.pids.isEmpty = true := by
  simp only [isEmpty_iff, SortedSet.isEmpty_iff]
  constructor
  · intro hnone o ho p hp
    rcases c.mem_options_iff.1 ho with ⟨f, -, rfl⟩ | ⟨q, hq, rfl⟩
    · exact hnone f.slot p hp
    · exact hnone .probe q.pid (SortedSet.mem_image.2 ⟨q, hq.1, rfl⟩)
  · intro hnone s p hp
    by_cases hs : s = .probe
    · subst hs
      obtain ⟨q, hq, rfl⟩ := SortedSet.mem_image.1 hp
      obtain ⟨o, ho, -, hpid⟩ := c.exists_writesTo_site_iff.2 ⟨hq, h q hq⟩
      exact hnone o ho q.pid hpid
    · obtain ⟨o, ho, -, hpid⟩ := (c.exists_writesTo_slot_iff hs).2 hp
      exact hnone o ho p hpid

/-! ### The projection -/

/-- **What the options of a configuration for some processes are.** -/
structure Projects (relevant : List Pid) (options : List FeatureOption) : Prop where
  /-- First come six, one for each slot but that of the probes, in the order of the slots. -/
  slots : (options.take 6).map (fun o ↦ o.feature.slot) = Slot.all.filter (· ≠ .probe)
  /-- Each of them is for the processes for which its slot is on, -/
  pids : ∀ o ∈ options.take 6, ∀ p, p ∈ o.pids ↔ c.isEnabledFor o.feature.slot p = true
  /-- and enabled if that is so for a relevant one. -/
  enabled : ∀ o ∈ options.take 6,
    (o.enabled = true ↔ ∃ p ∈ relevant, c.isEnabledFor o.feature.slot p = true)
  /-- After them comes one for each probe in a relevant process, in the order of the probes. -/
  probes : ∃ qs : List Probe, qs.Pairwise SortKey.Precedes ∧
    (∀ q, q ∈ qs ↔ q ∈ c.probes ∧ q.pid ∈ relevant) ∧ options.drop 6 = qs.map probeOption
  /-- They are the same however the relevant processes are listed. -/
  unordered : ∀ l : List Pid, (∀ p, p ∈ l ↔ p ∈ relevant) → c.options l = options
  /-- If every probe is in a relevant process, switching them all on makes a configuration with the
  same processes for each slot and the same probes out of the empty one, -/
  complete : (∀ q ∈ c.probes, q.pid ∈ relevant) →
    (∀ s, (rebuilt options).pids s = c.pids s) ∧ (rebuilt options).probes = c.probes
  /-- and none of them is for any process exactly if the configuration is empty. -/
  empty : (∀ q ∈ c.probes, q.pid ∈ relevant) →
    (c.isEmpty = true ↔ ∀ o ∈ options, o.pids.isEmpty = true)

/-- **The options are a faithful projection**, of any configuration and for any processes. -/
theorem options_projects (relevant : List Pid) :
    c.Projects relevant (c.options relevant) := by
  have htake : (c.options relevant).take 6 = c.switches.map (c.optionOf relevant) := rfl
  have hdrop : (c.options relevant).drop 6 =
      (c.probes.toList.filter fun q ↦ relevant.contains q.pid).map probeOption := rfl
  refine ⟨?_, ?_, ?_, ⟨_, c.probes.sorted.filter _, fun q ↦ ?_, hdrop⟩, fun l h ↦ c.options_congr h,
    fun h ↦ ⟨c.pids_rebuilt h, c.probes_rebuilt h⟩, c.isEmpty_iff_options⟩
  · rw [htake, List.map_map]
    exact c.map_slot_switches
  · rw [htake, List.forall_mem_map]
    exact fun f _ p ↦ c.mem_pids_optionOf
  · rw [htake, List.forall_mem_map]
    exact fun f _ ↦ c.enabled_optionOf
  · rw [List.mem_filter, List.contains_iff_mem, SortedSet.mem_toList]

end Configuration

end TraceReconciler
