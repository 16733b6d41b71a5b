import Mathlib.Data.List.Induction
import Mathlib.Data.Option.Basic
import TraceReconciler.Configuration.Merge

/-!
# The entries of a configuration

Seven slots of three shapes, and yet one table: an **entry** belongs to a process and to what is
traced in it, which is a slot or, for probes, a site (`Subject`). An entry is off or on; while it is
on it has a mark, which is the threshold if there is one.

**A change overwrites.** It leaves one mark in the entries of its processes for its subject and
touches no other, whatever the shape of the slot and whichever order its update merges in
(`mark?_apply`). So the last change that writes to an entry decides it, over any number of changes
(`mark?_applyAll`).

The entries say everything about a configuration except whether a slot without entries is there
(`eq_of_mark?`). That is the other half of what changes do: they bring slots about, and no change
takes one away (`isAbsent_apply`).
-/

namespace TraceReconciler

/-! ### What a change writes, and where -/

/-- What is traced in a process: what a slot is for, or a site of probes. -/
inductive Subject where
  | slot (s : Slot)
  | site (s : Site)
deriving DecidableEq

namespace Feature

/-- What a feature traces. A threshold is part of what is written, not of where. -/
def subject : Feature → Subject
  | .probe s => .site s
  | f => .slot f.slot

/-- The threshold of a feature that has one. -/
def threshold? : Feature → Option Threshold
  | .sendMessage t => some t
  | _ => none

/-- A subject that is a slot is the slot of the feature. -/
theorem slot_eq_of_subject {f : Feature} {s : Slot} (h : f.subject = .slot s) : f.slot = s := by
  cases f <;> cases h <;> rfl

theorem slot_ne_probe {f : Feature} {s : Slot} (h : f.subject = .slot s) : f.slot ≠ .probe := by
  cases f <;> cases h <;> exact nofun

/-- Where the feature is no probe, its subject is its slot. -/
theorem subject_eq_slot {f : Feature} (h : f.slot ≠ .probe) : f.subject = .slot f.slot := by
  cases f <;> first | rfl | exact absurd rfl h

/-- Only probes have a site for their subject. -/
theorem eq_probe_of_subject {f : Feature} {s : Site} (h : f.subject = .site s) : f = .probe s := by
  cases f <;> cases h
  rfl

theorem exists_threshold {f : Feature} (h : f.subject = .slot .sendMessage) :
    ∃ t, f.threshold? = some t := by
  cases f with
  | sendMessage t => exact ⟨t, rfl⟩
  | _ => cases h

theorem exists_eq_probe {f : Feature} (h : f.slot = .probe) : ∃ s, f = .probe s := by
  cases f with
  | probe s => exact ⟨s, rfl⟩
  | _ => cases h

end Feature

/-- What an entry has while it is on: its threshold, if the feature has one. -/
abbrev Mark := Option Threshold

namespace Change

/-- A change writes to the entries of its processes for its subject. -/
def WritesTo (x : Change) (t : Subject) (p : Pid) : Prop := x.feature.subject = t ∧ p ∈ x.pids

instance (x : Change) (t : Subject) (p : Pid) : Decidable (x.WritesTo t p) :=
  inferInstanceAs (Decidable (_ ∧ _))

/-- What a change leaves in the entries that it writes to. -/
def mark? (x : Change) : Option Mark := if x.enable then some x.feature.threshold? else none

theorem isSome_mark? {x : Change} : x.mark?.isSome = true ↔ x.enable = true := by
  rw [mark?]
  cases x.enable <;> simp

theorem mem_added {x : Change} {p : Pid} :
    p ∈ x.delta.added ↔ x.enable = true ∧ p ∈ x.pids := by
  rw [delta]
  cases x.enable <;> simp [PidDelta.added]

theorem mem_removed {x : Change} {p : Pid} :
    p ∈ x.delta.removed ↔ x.enable = false ∧ p ∈ x.pids := by
  rw [delta]
  cases x.enable <;> simp [PidDelta.removed]

end Change

/-! ### The three updates -/

/-- The mark of an entry that is on while it belongs to a set. -/
def SortedSet.mark? {α : Type} [SortKey α] [DecidableEq α] (s : SortedSet α) (a : α) :
    Option Mark :=
  if a ∈ s then some none else none

theorem SortedSet.isSome_mark? {α : Type} [SortKey α] [DecidableEq α] {s : SortedSet α} {a : α} :
    (s.mark? a).isSome = true ↔ a ∈ s := by
  by_cases h : a ∈ s <;> simp [mark?, h]

theorem SortedSet.ext_mark? {α : Type} [SortKey α] [DecidableEq α] {s t : SortedSet α}
    (h : ∀ a, s.mark? a = t.mark? a) : s = t :=
  ext_mem fun a ↦ by rw [← isSome_mark?, h a, isSome_mark?]

namespace Change

variable (x : Change)

/-- **A set of processes after a change.** A change never adds and removes the same process, so the
order of its update does not show, here and in the two updates below. -/
theorem mark?_updatePids (current : Option PidSet) (p : Pid) :
    (updatePids current x.delta.added x.delta.removed).mark? p =
      if p ∈ x.pids then if x.enable then some none else none
      else (current.getD ∅).mark? p := by
  simp only [SortedSet.mark?, mem_updatePids, mem_added, mem_removed]
  by_cases hp : p ∈ x.pids <;> cases x.enable <;> simp [hp]

/-- **Thresholds after a change.** -/
theorem mark?_updateThresholds (current : Option (PidMap Threshold)) (t : Threshold) (p : Pid) :
    ((updateValues current (.const x.delta.added t) x.delta.removed).get? p).map some =
      if p ∈ x.pids then if x.enable then some (some t) else none
      else ((current.getD ∅).get? p).map some := by
  simp only [get?_updateValues, SortedMap.get?_const, mem_added, mem_removed]
  by_cases hp : p ∈ x.pids <;> cases x.enable <;> simp [hp]

/-- **A set of probes after a change.** -/
theorem mark?_updateProbes (current : ProbeSet) (s : Site) (q : Probe) :
    (updateProbes current (s.probes x.delta.added) (s.probes x.delta.removed)).mark? q =
      if s = q.site ∧ q.pid ∈ x.pids then if x.enable then some none else none
      else current.mark? q := by
  simp only [SortedSet.mark?, mem_updateProbes, Site.mem_probes, mem_added, mem_removed,
    eq_comm (a := s)]
  by_cases hsite : q.site = s <;> by_cases hp : q.pid ∈ x.pids <;> cases x.enable <;>
    simp [hsite, hp]

end Change

/-! ### What a slot holds -/

/-- What a slot holds. -/
inductive Content where
  | pids (s : Option PidSet)
  | thresholds (m : Option (PidMap Threshold))
  | probes (s : ProbeSet)

namespace Content

/-- Whether a slot was never configured. The slot of the probes is always there. -/
def isAbsent : Content → Bool
  | .pids s => s.isNone
  | .thresholds m => m.isNone
  | .probes _ => false

/-- The mark of a process in a slot that is switched per process. -/
def mark? : Content → Pid → Option Mark
  | .pids s, p => (s.getD ∅).mark? p
  | .thresholds m, p => ((m.getD ∅).get? p).map some
  | .probes _, _ => none

end Content

namespace Configuration

variable (c : Configuration)

/-- What a slot of a configuration holds. -/
def content : Slot → Content
  | .vfsWrite => .pids c.vfsWrite
  | .sendMessage => .thresholds c.sendMessage
  | .jniReferences => .pids c.jniReferences
  | .sigquit => .pids c.sigquit
  | .gc => .pids c.gc
  | .openFiles => .pids c.openFiles
  | .probe => .probes c.probes

/-- **The mark of an entry.** -/
def mark? : Subject → Pid → Option Mark
  | .slot s, p => (c.content s).mark? p
  | .site s, p => c.probes.mark? ⟨s, p⟩

theorem mark?_empty (t : Subject) (p : Pid) : empty.mark? t p = none := by
  cases t with
  | slot s => cases s <;> rfl
  | site s => rfl

/-! ### What is read off the entries -/

theorem mem_pids_iff {s : Slot} (h : s ≠ .probe) {p : Pid} :
    p ∈ c.pids s ↔ (c.mark? (.slot s) p).isSome = true := by
  cases s with
  | probe => exact absurd rfl h
  | sendMessage =>
    rw [pids, SortedMap.mem_keys_iff_isSome, mark?, content, Content.mark?, Option.isSome_map]
  | _ => exact SortedSet.isSome_mark?.symm

theorem mem_probes_iff {q : Probe} : q ∈ c.probes ↔ (c.mark? (.site q.site) q.pid).isSome = true :=
  SortedSet.isSome_mark?.symm

/-- **Configurations with the same entries and the same slots are equal.** -/
theorem eq_of_mark? {c d : Configuration} (hmark : ∀ t p, c.mark? t p = d.mark? t p)
    (habsent : ∀ s, (c.content s).isAbsent = (d.content s).isAbsent) : c = d := by
  have hoption {α : Type} {a b : Option α} {e : α} (hnone : a.isNone = b.isNone)
      (hget : a.getD e = b.getD e) : a = b := by
    cases a <;> cases b <;> simp_all
  have hprobes : c.probes = d.probes := SortedSet.ext_mark? fun q ↦ hmark (.site q.site) q.pid
  have hthresholds : c.sendMessage.getD ∅ = d.sendMessage.getD ∅ :=
    SortedMap.ext_get? fun p ↦
      Option.map_injective (Option.some_injective _) (hmark (.slot .sendMessage) p)
  cases c
  cases d
  congr
  · exact hoption (habsent .vfsWrite) (SortedSet.ext_mark? (hmark (.slot .vfsWrite)))
  · exact hoption (habsent .sendMessage) hthresholds
  · exact hoption (habsent .jniReferences) (SortedSet.ext_mark? (hmark (.slot .jniReferences)))
  · exact hoption (habsent .sigquit) (SortedSet.ext_mark? (hmark (.slot .sigquit)))
  · exact hoption (habsent .gc) (SortedSet.ext_mark? (hmark (.slot .gc)))
  · exact hoption (habsent .openFiles) (SortedSet.ext_mark? (hmark (.slot .openFiles)))

/-! ### One change -/

/-- **A change stays in the slot of its feature.** -/
theorem content_apply_of_ne {x : Change} {s : Slot} (h : x.feature.slot ≠ s) :
    (c.apply x).content s = c.content s := by
  obtain ⟨f, e, pids⟩ := x
  cases f <;> cases s <;> first | rfl | exact absurd rfl h

/-- A change brings its slot about, even if it is for no process. -/
theorem isAbsent_apply (x : Change) (s : Slot) :
    ((c.apply x).content s).isAbsent = true ↔
      (c.content s).isAbsent = true ∧ x.feature.slot ≠ s := by
  by_cases hs : x.feature.slot = s
  · subst hs
    obtain ⟨f, e, pids⟩ := x
    cases f <;> simp [apply, content, Content.isAbsent, Feature.slot]
  · rw [content_apply_of_ne c hs]
    exact (and_iff_left hs).symm

/-- A change of a slot that is switched per process writes to its processes there. -/
theorem mark?_content_apply {x : Change} (h : x.feature.slot ≠ .probe) (p : Pid) :
    ((c.apply x).content x.feature.slot).mark? p =
      if p ∈ x.pids then x.mark? else (c.content x.feature.slot).mark? p := by
  have hpids (current : Option PidSet) := x.mark?_updatePids current p
  have hthresholds (t : Threshold) := x.mark?_updateThresholds c.sendMessage t p
  obtain ⟨f, e, pids⟩ := x
  cases f with
  | vfsWrite => exact hpids c.vfsWrite
  | sendMessage t => exact hthresholds t
  | jniReferences => exact hpids c.jniReferences
  | sigquit => exact hpids c.sigquit
  | gc => exact hpids c.gc
  | openFiles => exact hpids c.openFiles
  | probe s => exact absurd rfl h

/-- A change of probes writes to its processes at its site. -/
theorem mark?_probes_apply {x : Change} {s : Site} (h : x.feature = .probe s) (q : Probe) :
    (c.apply x).probes.mark? q =
      if s = q.site ∧ q.pid ∈ x.pids then x.mark? else c.probes.mark? q := by
  have hprobes := x.mark?_updateProbes c.probes s q
  obtain ⟨f, e, pids⟩ := x
  obtain rfl : f = .probe s := h
  exact hprobes

/-- **One change.** It leaves its mark in the entries of its processes, and touches no other. -/
theorem mark?_apply (x : Change) (t : Subject) (p : Pid) :
    (c.apply x).mark? t p = if x.WritesTo t p then x.mark? else c.mark? t p := by
  cases t with
  | slot s =>
    by_cases hs : x.feature.subject = .slot s
    · obtain rfl := Feature.slot_eq_of_subject hs
      have hwrites : x.WritesTo (.slot x.feature.slot) p ↔ p ∈ x.pids := and_iff_right hs
      simp only [hwrites]
      exact c.mark?_content_apply (Feature.slot_ne_probe hs) p
    · have hwrites : ¬ x.WritesTo (.slot s) p := fun h ↦ hs h.1
      rw [if_neg hwrites]
      by_cases hslot : x.feature.slot = s
      · -- A feature whose subject is not its slot is a probe, whose slot has no marks.
        obtain rfl : s = .probe := by_contra fun hprobe ↦
          hs (hslot ▸ Feature.subject_eq_slot (hslot ▸ hprobe))
        rfl
      · rw [mark?, content_apply_of_ne c hslot, mark?]
  | site s =>
    by_cases hs : x.feature.slot = .probe
    · obtain ⟨s', hs'⟩ := Feature.exists_eq_probe hs
      have hwrites : x.WritesTo (.site s) p ↔ s' = s ∧ p ∈ x.pids := by
        simp [Change.WritesTo, hs', Feature.subject]
      simp only [hwrites]
      exact c.mark?_probes_apply hs' ⟨s, p⟩
    · have hwrites : ¬ x.WritesTo (.site s) p := fun h ↦
        hs (Feature.eq_probe_of_subject h.1 ▸ rfl)
      have hprobes := Content.probes.inj (c.content_apply_of_ne hs)
      rw [if_neg hwrites, mark?, hprobes, mark?]

/-! ### Many changes -/

end Configuration

/-- The last change of a list that writes to an entry. -/
def lastWriter? (l : List Change) (t : Subject) (p : Pid) : Option Change :=
  l.reverse.find? fun x ↦ decide (x.WritesTo t p)

theorem lastWriter?_concat (l : List Change) (x : Change) (t : Subject) (p : Pid) :
    lastWriter? (l ++ [x]) t p = if x.WritesTo t p then some x else lastWriter? l t p := by
  by_cases h : x.WritesTo t p <;> simp [lastWriter?, h]

theorem writesTo_of_lastWriter? {l : List Change} {t : Subject} {p : Pid} {x : Change}
    (h : lastWriter? l t p = some x) : x.WritesTo t p := by
  have hfind : l.reverse.find? (fun x ↦ decide (x.WritesTo t p)) = some x := h
  simpa using List.find?_some hfind

theorem mem_of_lastWriter? {l : List Change} {t : Subject} {p : Pid} {x : Change}
    (h : lastWriter? l t p = some x) : x ∈ l :=
  List.mem_reverse.1 (List.mem_of_find?_eq_some h)

theorem lastWriter?_eq_none_iff {l : List Change} {t : Subject} {p : Pid} :
    lastWriter? l t p = none ↔ ∀ x ∈ l, ¬ x.WritesTo t p := by
  simp [lastWriter?]

namespace Configuration

variable (c : Configuration)

theorem applyAll_concat (l : List Change) (x : Change) :
    c.applyAll (l ++ [x]) = (c.applyAll l).apply x := c.applyAll_append l [x]

/-- **Many changes.** The last one that writes to an entry decides it. -/
theorem mark?_applyAll (l : List Change) (t : Subject) (p : Pid) :
    (c.applyAll l).mark? t p =
      match lastWriter? l t p with
      | some x => x.mark?
      | none => c.mark? t p := by
  induction l using List.reverseRecOn with
  | nil => rfl
  | append_singleton l x ih =>
    rw [applyAll_concat, mark?_apply, lastWriter?_concat]
    by_cases h : x.WritesTo t p
    · rw [if_pos h, if_pos h]
    · rw [if_neg h, if_neg h, ih]

theorem isAbsent_applyAll (l : List Change) (s : Slot) :
    ((c.applyAll l).content s).isAbsent = true ↔
      (c.content s).isAbsent = true ∧ ∀ x ∈ l, x.feature.slot ≠ s := by
  induction l using List.reverseRecOn with
  | nil => simp
  | append_singleton l x ih =>
    rw [applyAll_concat, isAbsent_apply, ih, List.forall_mem_append, List.forall_mem_singleton,
      and_assoc]

theorem content_applyAll_of_ne {l : List Change} {s : Slot} (h : ∀ x ∈ l, x.feature.slot ≠ s) :
    (c.applyAll l).content s = c.content s := by
  induction l using List.reverseRecOn with
  | nil => rfl
  | append_singleton l x ih =>
    rw [List.forall_mem_append, List.forall_mem_singleton] at h
    rw [applyAll_concat, content_apply_of_ne _ h.2, ih h.1]

/-- **What the last writers leave of a configuration.** -/
structure LeftByLast (l : List Change) (r : Configuration) : Prop where
  /-- A process is in a slot if the last change of it there switched it on, or if it was in the slot
  and no change was for it. -/
  pids {s : Slot} (h : s ≠ .probe) (p : Pid) :
    p ∈ r.pids s ↔ match lastWriter? l (.slot s) p with
      | some x => x.enable = true
      | none => p ∈ c.pids s
  /-- A process has the threshold of the last change for it, none if that one switched it off, and
  its own if there is none. -/
  threshold (p : Pid) :
    (r.sendMessage.getD ∅).get? p = match lastWriter? l (.slot .sendMessage) p with
      | some x => if x.enable then x.feature.threshold? else none
      | none => (c.sendMessage.getD ∅).get? p
  /-- A probe is there if the last change of its site for its process switched it on, or if it was
  there and no change was for it. -/
  probe (q : Probe) :
    q ∈ r.probes ↔ match lastWriter? l (.site q.site) q.pid with
      | some x => x.enable = true
      | none => q ∈ c.probes
  /-- A slot is absent if it was absent and no change is one of its feature, not even for nobody. -/
  absent (s : Slot) :
    (r.content s).isAbsent = true ↔
      (c.content s).isAbsent = true ∧ ∀ x ∈ l, x.feature.slot ≠ s
  /-- A slot that no change is about is as it was. -/
  untouched {s : Slot} (h : ∀ x ∈ l, x.feature.slot ≠ s) : r.content s = c.content s

/-- **The last writer decides**, over any number of changes of any features to any configuration:
each entry is as its last change left it, or as it was; and a slot is there from its first change
on. -/
theorem applyAll_leftByLast (l : List Change) : c.LeftByLast l (c.applyAll l) where
  pids := by
    intro s h p
    rw [mem_pids_iff _ h, mark?_applyAll]
    cases lastWriter? l (.slot s) p with
    | none => exact (c.mem_pids_iff h).symm
    | some x => exact Change.isSome_mark?
  threshold := by
    intro p
    have hmark := c.mark?_applyAll l (.slot .sendMessage) p
    refine Option.map_injective (Option.some_injective _) (hmark.trans ?_)
    cases hlast : lastWriter? l (.slot .sendMessage) p with
    | none => rfl
    | some x =>
      obtain ⟨t, ht⟩ := Feature.exists_threshold (writesTo_of_lastWriter? hlast).1
      simp only [Change.mark?, ht]
      cases x.enable <;> rfl
  probe := by
    intro q
    rw [mem_probes_iff, mark?_applyAll]
    cases lastWriter? l (.site q.site) q.pid with
    | none => exact c.mem_probes_iff.symm
    | some x => exact Change.isSome_mark?
  absent := c.isAbsent_applyAll l
  untouched := c.content_applyAll_of_ne

end Configuration

end TraceReconciler
