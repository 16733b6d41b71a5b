import TraceReconciler.Proofs.Configuration.Options
import TraceReconciler.Proofs.Configuration.Supersession
import TraceReconciler.Proofs.Configuration.Switched

/-!
# Switching off and on again through an option

An enabled option says for which processes its feature is on and how to switch it again. Whoever
switches the feature off for some of these processes and then on again, both times with the payload
of the option, asks for nothing to change.

Two changes of one feature for the same processes come to what the second one alone does
(`reswitch_eq`), and the second one switches on what is on already. So the features that are on, the
probes and the slots that are there stay as they are (`isSome_mark?_apply_on`).

**Thresholds are the exception.** The option of thresholds is one for all processes and has the
threshold of the first of them (`exists_first_timed`), which is written to each process that is
switched. Everything is as it was exactly if they all had this threshold (`reswitch_option`).
-/

namespace TraceReconciler.Configuration

variable (c : Configuration) {relevant : List Pid} {o : FeatureOption} {f : Feature} {q : PidSet}

/-! ### Features that are on -/

/-- A slot that is on for a process is there. -/
theorem isConfigured_of_mem_pids {s : Slot} {p : Pid} (h : p ∈ c.pids s) : c.IsConfigured s := by
  cases s with
  | probe => rfl
  | _ =>
    refine Bool.eq_false_iff.2 fun habsent ↦ ?_
    rw [pids, Option.isNone_iff_eq_none.1 habsent] at h
    exact SortedSet.not_mem_empty p h

/-- Only thresholds can be on in more than one way. -/
theorem isOnAs_iff_isOn (h : ∀ t, f ≠ .sendMessage t) {p : Pid} : c.IsOnAs f p ↔ c.IsOn f p := by
  cases f with
  | sendMessage t => exact absurd rfl (h t)
  | _ => exact Iff.rfl

/-- **An enabled option is for a slot that is there, and on for each of its processes.** -/
theorem isOn_of_mem_options (ho : o ∈ c.options relevant) (hon : o.enabled = true) :
    c.IsConfigured o.feature.slot ∧ ∀ p ∈ o.pids, c.IsOn o.feature p := by
  rcases c.mem_options_iff.1 ho with ⟨f, hf, rfl⟩ | ⟨x, ⟨hx, -⟩, rfl⟩
  · obtain ⟨p, -, hp⟩ := c.enabled_optionOf.1 hon
    refine ⟨c.isConfigured_of_mem_pids (isEnabledFor_iff.1 hp), fun p hp ↦ ?_⟩
    have hslot : f.slot ≠ .probe := c.slot_ne_probe_of_mem_switches hf
    show c.IsOn f p
    rw [isOn_iff, Feature.subject_eq_slot hslot]
    exact (c.mem_pids_iff hslot).1 hp
  · refine ⟨rfl, fun p hp ↦ ?_⟩
    obtain rfl : p = x.pid := List.mem_singleton.1 (SortedSet.mem_ofList.1 hp)
    exact hx

theorem exists_mem_of_enabled (ho : o ∈ c.options relevant) (hon : o.enabled = true) :
    ∃ p, p ∈ o.pids := by
  rcases c.mem_options_iff.1 ho with ⟨f, -, rfl⟩ | ⟨x, -, rfl⟩
  · obtain ⟨p, -, hp⟩ := c.enabled_optionOf.1 hon
    exact ⟨p, c.mem_pids_optionOf.2 hp⟩
  · exact ⟨x.pid, SortedSet.mem_ofList.2 (List.mem_singleton_self x.pid)⟩

/-- Switching on what is on leaves everything on that was, and nothing else. -/
theorem isSome_mark?_apply_on (h : ∀ p ∈ q, c.IsOn f p) (t : Subject) (p : Pid) :
    ((c.apply ⟨f, true, q⟩).mark? t p).isSome = (c.mark? t p).isSome := by
  rw [mark?_apply]
  split
  · next hwrites =>
    obtain ⟨rfl, hp⟩ := hwrites
    exact (c.isOn_iff.1 (h p hp)).symm
  · rfl

/-! ### The threshold of an option -/

/-- **The threshold in use is that of the first process that has one.** -/
theorem exists_first_timed {p : Pid} (hp : p ∈ c.pids .sendMessage) :
    ∃ p₀ ∈ c.pids .sendMessage, (c.sendMessage.getD ∅).get? p₀ = some c.thresholdInUse ∧
      ∀ p' ∈ c.pids .sendMessage, p' ≠ p₀ → SortKey.Precedes p₀ p' := by
  rw [pids, thresholdInUse] at *
  cases hm : c.sendMessage with
  | none =>
    rw [hm] at hp
    exact absurd hp (SortedSet.not_mem_empty p)
  | some m =>
    rw [hm] at hp
    obtain ⟨entries, hsorted⟩ := m
    cases entries with
    | nil => exact absurd hp List.not_mem_nil
    | cons e l =>
      obtain ⟨p₀, t⟩ := e
      refine ⟨p₀, List.mem_cons_self, SortedMap.get?_eq_some_iff.2 List.mem_cons_self,
        fun p' hp' hne ↦ ?_⟩
      obtain ⟨e, he, rfl⟩ := List.mem_map.1 hp'
      rcases List.mem_cons.1 he with rfl | he
      · exact absurd rfl hne
      · exact (List.pairwise_cons.1 hsorted).1 e he

/-- The option of thresholds is one, for all processes that have one. -/
theorem option_sendMessage (ho : o ∈ c.options relevant) {t : Threshold}
    (ht : o.feature = .sendMessage t) : t = c.thresholdInUse ∧ o.pids = c.pids .sendMessage := by
  rcases c.mem_options_iff.1 ho with ⟨f, hf, rfl⟩ | ⟨x, -, rfl⟩
  · obtain rfl : f = .sendMessage t := ht
    have ht' : t = c.thresholdInUse := by simpa [switches] using hf
    exact ⟨ht', rfl⟩
  · cases ht

/-- What a change leaves of the threshold of a process. -/
theorem threshold_apply_on (f : Feature) (q : PidSet) (p : Pid) :
    ((c.apply ⟨f, true, q⟩).sendMessage.getD ∅).get? p =
      if f.slot = .sendMessage ∧ p ∈ q then f.threshold? else (c.sendMessage.getD ∅).get? p := by
  refine Option.map_injective (Option.some_injective _) ?_
  have hmark := c.mark?_apply ⟨f, true, q⟩ (.slot .sendMessage) p
  cases f with
  | sendMessage t =>
    by_cases hp : p ∈ q
    · rw [if_pos ⟨rfl, hp⟩]
      rwa [if_pos ⟨rfl, hp⟩] at hmark
    · rw [if_neg fun h ↦ hp h.2]
      rwa [if_neg fun h ↦ hp h.2] at hmark
  | _ => exact hmark

/-! ### Off and on again -/

/-- A feature switched off and then on again for some processes. -/
def reswitch (f : Feature) (q : PidSet) : Configuration :=
  (c.apply ⟨f, false, q⟩).apply ⟨f, true, q⟩

theorem reswitch_eq (f : Feature) (q : PidSet) : c.reswitch f q = c.apply ⟨f, true, q⟩ := by
  have h : Change.SupersededBy ⟨f, false, q⟩ [⟨f, true, q⟩] :=
    Change.supersededBy_singleton rfl rfl
  exact c.applyAll_apply_of_supersededBy h

/-- **What comes of switching an option off and on again** for some processes. -/
structure Reswitched (o : FeatureOption) (q : PidSet) (r : Configuration) : Prop where
  /-- Every slot is on for the same processes, -/
  pids : ∀ s, r.pids s = c.pids s
  /-- the probes are the same, -/
  probes : r.probes = c.probes
  /-- and so are the slots that are there. -/
  absent : ∀ s, (r.content s).isAbsent = (c.content s).isAbsent
  /-- Only processes that were switched can have another threshold: that of the option, -/
  threshold : ∀ p, (r.sendMessage.getD ∅).get? p =
    if o.feature.slot = .sendMessage ∧ p ∈ q then o.feature.threshold?
    else (c.sendMessage.getD ∅).get? p
  /-- which is the threshold of the first of all its processes. -/
  first : ∀ t, o.feature = .sendMessage t → ∃ p ∈ o.pids,
    (c.sendMessage.getD ∅).get? p = some t ∧ ∀ p' ∈ o.pids, p' ≠ p → SortKey.Precedes p p'
  /-- **Nothing has changed exactly if they all had this threshold**, for an option of thresholds,
  and in any case for every other option. -/
  unchanged : r = c ↔
    ∀ t, o.feature = .sendMessage t → ∀ p ∈ q, (c.sendMessage.getD ∅).get? p = some t

/-- **An enabled option switches its feature off and on again** for any of its processes, and only
thresholds can be lost: the processes that are switched come back with the threshold of the first
process that has one. -/
theorem reswitch_option (ho : o ∈ c.options relevant) (hon : o.enabled = true)
    (hq : ∀ p ∈ q, p ∈ o.pids) : c.Reswitched o q (c.reswitch o.feature q) := by
  obtain ⟨hslot, hison⟩ := c.isOn_of_mem_options ho hon
  have hisonq : ∀ p ∈ q, c.IsOn o.feature p := fun p hp ↦ hison p (hq p hp)
  have hmark := c.isSome_mark?_apply_on hisonq
  have hprobes : (c.apply ⟨o.feature, true, q⟩).probes = c.probes :=
    SortedSet.ext_mem fun x ↦ by rw [mem_probes_iff, mem_probes_iff, hmark]
  rw [reswitch_eq]
  refine ⟨fun s ↦ ?_, hprobes, fun s ↦ ?_, fun p ↦ ?_, fun t ht ↦ ?_, ?_⟩
  · by_cases hs : s = .probe
    · subst hs
      rw [pids, pids, hprobes]
    · exact SortedSet.ext_mem fun p ↦ by rw [mem_pids_iff _ hs, mem_pids_iff _ hs, hmark]
  · rw [Bool.eq_iff_iff, isAbsent_apply]
    refine and_iff_left_of_imp fun habsent hs ↦ ?_
    exact Bool.false_ne_true (hslot.symm.trans (hs ▸ habsent))
  · exact c.threshold_apply_on o.feature q p
  · obtain ⟨p, hp⟩ := c.exists_mem_of_enabled ho hon
    obtain ⟨rfl, hpids⟩ := c.option_sendMessage ho ht
    rw [hpids] at hp ⊢
    exact c.exists_first_timed hp
  · rw [apply_on_eq_self_iff, and_iff_right hslot]
    constructor
    · intro h t ht p hp
      exact (ht ▸ h p hp : c.IsOnAs (.sendMessage t) p)
    · intro h p hp
      by_cases htimed : ∃ t, o.feature = .sendMessage t
      · obtain ⟨t, ht⟩ := htimed
        rw [ht]
        exact h t ht p hp
      · exact (c.isOnAs_iff_isOn fun t ht ↦ htimed ⟨t, ht⟩).2 (hisonq p hp)

/-- **Nothing is not always what changes**: of two processes with different thresholds, the second
one comes back with the threshold of the first. -/
theorem exists_reswitch_ne : ¬ ∀ (c : Configuration) (relevant : List Pid) (o : FeatureOption)
    (q : PidSet), o ∈ c.options relevant → o.enabled = true → (∀ p ∈ q, p ∈ o.pids) →
      (c.apply ⟨o.feature, false, q⟩).apply ⟨o.feature, true, q⟩ = c := by
  intro h
  have heq := h { sendMessage := some (.ofList [(1, 5), (2, 6)]) } [2]
    ⟨.sendMessage 5, true, .ofList [1, 2]⟩ (.ofList [2]) (by decide) rfl (by decide)
  exact absurd heq (by decide)

/-- The same two processes, of which the first is switched: here nothing has changed. -/
theorem reswitch_option_first :
    let c : Configuration := { sendMessage := some (.ofList [(1, 5), (2, 6)]) }
    let o : FeatureOption := ⟨.sendMessage 5, true, .ofList [1, 2]⟩
    (o ∈ c.options [2] ∧ o.enabled = true ∧ ∀ p ∈ (.ofList [1] : PidSet), p ∈ o.pids) ∧
      c.Reswitched o (.ofList [1]) (c.reswitch o.feature (.ofList [1])) ∧
      c.reswitch o.feature (.ofList [1]) = c := by
  intro c o
  have ho : o ∈ c.options [2] := by decide
  have hreswitched : c.Reswitched o (.ofList [1]) (c.reswitch o.feature (.ofList [1])) :=
    c.reswitch_option ho rfl (by decide)
  refine ⟨by decide, hreswitched, hreswitched.unchanged.2 fun t ht ↦ ?_⟩
  obtain rfl : 5 = t := Feature.sendMessage.inj ht
  decide

end TraceReconciler.Configuration
