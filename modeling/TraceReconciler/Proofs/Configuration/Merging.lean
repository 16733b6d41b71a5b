import TraceReconciler.Proofs.Configuration.ProbeOrder

/-!
# Merging with what overlaps

An update adds some items and removes some, and where an item is to be both added and removed, the
step that comes last has the last word. Sets and maps of processes remove last, so what is removed
is gone; sets of probes add last, so what is added is there.

**The two orders differ exactly where the two overlap** (`SortedSet.merge_eq_iff`,
`SortedMap.merge_eq_iff`), whatever was there before. A change never overlaps with itself: it adds
or it removes (`PidDelta.not_mem_removed_of_mem_added`). So nobody who only makes changes can tell
which order a slot merges in: with any assignment of orders to slots, changes do the same
(`Configuration.applyIn_congr`).
-/

namespace TraceReconciler

/-- What a merge does last, and thereby what wins. -/
inductive MergeOrder where
  | removeLast
  | addLast
deriving DecidableEq

/-! ### Sets -/

namespace SortedSet

variable {α : Type} [SortKey α] [DecidableEq α] {s add remove : SortedSet α}

/-- A set with some items added and some removed, in either order. -/
def merge (o : MergeOrder) (s add remove : SortedSet α) : SortedSet α :=
  match o with
  | .removeLast => (s.union add).diff remove
  | .addLast => (s.diff remove).union add

theorem mem_merge_removeLast {x : α} :
    x ∈ merge .removeLast s add remove ↔ (x ∈ s ∨ x ∈ add) ∧ x ∉ remove := by
  rw [merge, mem_diff, mem_union]

theorem mem_merge_addLast {x : α} :
    x ∈ merge .addLast s add remove ↔ (x ∈ s ∧ x ∉ remove) ∨ x ∈ add := by
  rw [merge, mem_union, mem_diff]

/-- **The orders agree exactly if nothing is both added and removed.** -/
theorem merge_eq_iff :
    merge .removeLast s add remove = merge .addLast s add remove ↔ ∀ x ∈ add, x ∉ remove := by
  constructor
  · intro h x hadd
    -- What is added is there if adding comes last, so it must not have been removed.
    have hlast : x ∈ merge .addLast s add remove := mem_merge_addLast.2 (.inr hadd)
    rw [← h] at hlast
    exact (mem_merge_removeLast.1 hlast).2
  · intro h
    refine ext_mem fun x ↦ ?_
    rw [mem_merge_removeLast, mem_merge_addLast, or_and_right]
    exact or_congr_right (and_iff_left_of_imp (h x))

theorem merge_congr (h : ∀ x ∈ add, x ∉ remove) (o o' : MergeOrder) :
    merge o s add remove = merge o' s add remove := by
  have heq := (merge_eq_iff (s := s)).2 h
  cases o <;> cases o' <;> simp only [heq]

end SortedSet

/-! ### Maps -/

namespace SortedMap

variable {κ ν : Type} [SortKey κ] [DecidableEq κ] {m add : SortedMap κ ν} {remove : SortedSet κ}

/-- A map with some entries written over and some removed, in either order. -/
def merge (o : MergeOrder) (m add : SortedMap κ ν) (remove : SortedSet κ) : SortedMap κ ν :=
  match o with
  | .removeLast => (m.union add).eraseAll remove
  | .addLast => (m.eraseAll remove).union add

theorem get?_merge_removeLast (m add : SortedMap κ ν) (remove : SortedSet κ) (k : κ) :
    (merge .removeLast m add remove).get? k =
      if k ∈ remove then none else (add.get? k).or (m.get? k) := by
  rw [merge, get?_eraseAll, get?_union]

theorem get?_merge_addLast (m add : SortedMap κ ν) (remove : SortedSet κ) (k : κ) :
    (merge .addLast m add remove).get? k =
      (add.get? k).or (if k ∈ remove then none else m.get? k) := by
  rw [merge, get?_union, get?_eraseAll]

/-- **The orders agree exactly if no key is both written and removed.** -/
theorem merge_eq_iff :
    merge .removeLast m add remove = merge .addLast m add remove ↔
      ∀ k ∈ add.keys, k ∉ remove := by
  constructor
  · intro h k hadd hremove
    have hentry : none = add.get? k := by
      calc
        none = (merge .removeLast m add remove).get? k := by
          rw [get?_merge_removeLast, if_pos hremove]
        _ = (merge .addLast m add remove).get? k := by rw [h]
        _ = add.get? k := by rw [get?_merge_addLast, if_pos hremove, Option.or_none]
    rw [mem_keys_iff_isSome, ← hentry] at hadd
    exact Bool.false_ne_true hadd
  · intro h
    refine ext_get? fun k ↦ ?_
    rw [get?_merge_removeLast, get?_merge_addLast]
    by_cases hremove : k ∈ remove
    · have hnone : add.get? k = none := by
        rw [← Option.not_isSome_iff_eq_none, ← mem_keys_iff_isSome]
        exact fun hadd ↦ h k hadd hremove
      rw [if_pos hremove, if_pos hremove, hnone, Option.or_none]
    · rw [if_neg hremove, if_neg hremove]

theorem mem_keys_const {t : SortedSet κ} {v : ν} {k : κ} : k ∈ (const t v).keys ↔ k ∈ t := by
  rw [mem_keys_iff_isSome, get?_const]
  by_cases h : k ∈ t <;> simp [h]

theorem merge_congr (h : ∀ k ∈ add.keys, k ∉ remove) (o o' : MergeOrder) :
    merge o m add remove = merge o' m add remove := by
  have heq := (merge_eq_iff (m := m)).2 h
  cases o <;> cases o' <;> simp only [heq]

end SortedMap

/-! ### Changes -/

/-- No probe at a site is both added and removed if no process is. -/
theorem Site.probes_disjoint (s : Site) {add remove : PidSet} (h : ∀ p ∈ add, p ∉ remove) :
    ∀ x ∈ s.probes add, x ∉ s.probes remove := fun x hadd hremove ↦
  h x.pid (mem_probes.1 hadd).2 (mem_probes.1 hremove).2

/-- The order in which a slot merges. -/
def Slot.mergeOrder : Slot → MergeOrder
  | .probe => .addLast
  | _ => .removeLast

namespace Configuration

/-- A configuration after one change, each slot merging in an order of one's choice. -/
def applyIn (order : Slot → MergeOrder) (c : Configuration) (x : Change) : Configuration :=
  let add := x.delta.added
  let remove := x.delta.removed
  let o := order x.feature.slot
  match x.feature with
  | .vfsWrite => { c with vfsWrite := some ((c.vfsWrite.getD ∅).merge o add remove) }
  | .sendMessage t =>
    { c with sendMessage := some ((c.sendMessage.getD ∅).merge o (.const add t) remove) }
  | .jniReferences =>
    { c with jniReferences := some ((c.jniReferences.getD ∅).merge o add remove) }
  | .sigquit => { c with sigquit := some ((c.sigquit.getD ∅).merge o add remove) }
  | .gc => { c with gc := some ((c.gc.getD ∅).merge o add remove) }
  | .openFiles => { c with openFiles := some ((c.openFiles.getD ∅).merge o add remove) }
  | .probe site => { c with probes := c.probes.merge o (site.probes add) (site.probes remove) }

theorem applyIn_mergeOrder (c : Configuration) (x : Change) :
    c.applyIn Slot.mergeOrder x = c.apply x := by
  obtain ⟨feature, enable, pids⟩ := x
  cases feature <;> rfl

/-- **Changes do the same in any order**, since none of them both adds and removes. -/
theorem applyIn_congr (c : Configuration) (x : Change) (order order' : Slot → MergeOrder) :
    c.applyIn order x = c.applyIn order' x := by
  have hdisjoint : ∀ p ∈ x.delta.added, p ∉ x.delta.removed := fun _ ↦
    PidDelta.not_mem_removed_of_mem_added
  have hkeys (t : Threshold) : ∀ p ∈ (SortedMap.const x.delta.added t).keys, p ∉ x.delta.removed :=
    fun p hp ↦ hdisjoint p (SortedMap.mem_keys_const.1 hp)
  have hpids (s : PidSet) := SortedSet.merge_congr (s := s) hdisjoint
    (order x.feature.slot) (order' x.feature.slot)
  have hvalues (m : PidMap Threshold) (t : Threshold) := SortedMap.merge_congr (m := m) (hkeys t)
    (order x.feature.slot) (order' x.feature.slot)
  have hprobes (s : ProbeSet) (site : Site) := SortedSet.merge_congr (s := s)
    (site.probes_disjoint hdisjoint) (order x.feature.slot) (order' x.feature.slot)
  simp only [applyIn, hpids, hvalues, hprobes]

/-- **What the three updates do**, also where what is added and what is removed overlap, and what
comes of their two orders: they agree exactly where nothing overlaps, and in a change nothing does.
An absent slot counts as empty, and what comes out is in order and without repetitions. -/
theorem updates_settle_overlaps :
    (∀ (current : Option PidSet) (add remove : PidSet),
      (∀ p, p ∈ updatePids current add remove ↔
        ((∃ s ∈ current, p ∈ s) ∨ p ∈ add) ∧ p ∉ remove) ∧
      updatePids none add remove = updatePids (some ∅) add remove ∧
      (updatePids current add remove).toList.Pairwise (·.toNat < ·.toNat) ∧
      (updatePids current add remove).toList.Nodup) ∧
    (∀ (ν : Type) (current : Option (PidMap ν)) (add : PidMap ν) (remove : PidSet),
      (∀ p, (updateValues current add remove).get? p =
        if p ∈ remove then none else (add.get? p).or (current.bind (·.get? p))) ∧
      updateValues none add remove = updateValues (some ∅) add remove ∧
      ((updateValues current add remove).entries.map Prod.fst).Pairwise (·.toNat < ·.toNat) ∧
      ((updateValues current add remove).entries.map Prod.fst).Nodup) ∧
    (∀ current add remove : ProbeSet,
      (∀ x, x ∈ updateProbes current add remove ↔ (x ∈ current ∧ x ∉ remove) ∨ x ∈ add) ∧
      (updateProbes current add remove).toList.Pairwise (·.octetTuple < ·.octetTuple) ∧
      (updateProbes current add remove).toList.Nodup) ∧
    (∀ (α : Type) [SortKey α] [DecidableEq α] (s add remove : SortedSet α),
      (s.union add).diff remove = (s.diff remove).union add ↔ ∀ x ∈ add, x ∉ remove) ∧
    (∀ (κ ν : Type) [SortKey κ] [DecidableEq κ] (m add : SortedMap κ ν) (remove : SortedSet κ),
      (m.union add).eraseAll remove = (m.eraseAll remove).union add ↔
        ∀ k ∈ add.keys, k ∉ remove) ∧
    ∀ (c : Configuration) (x : Change), (∀ p ∈ x.delta.added, p ∉ x.delta.removed) ∧
      ∀ order : Slot → MergeOrder, c.applyIn order x = c.apply x := by
  refine ⟨fun current add remove ↦ ⟨fun p ↦ ?_, rfl, SortedSet.sorted _, SortedSet.nodup _⟩,
    fun ν current add remove ↦ ⟨fun p ↦ ?_, rfl, ?_, SortedSet.nodup (SortedMap.keys _)⟩,
    fun current add remove ↦ ⟨fun x ↦ mem_updateProbes, ?_, SortedSet.nodup _⟩,
    fun _ _ _ _ _ _ ↦ SortedSet.merge_eq_iff, fun _ _ _ _ _ _ _ ↦ SortedMap.merge_eq_iff,
    fun c x ↦ ⟨fun _ ↦ PidDelta.not_mem_removed_of_mem_added, fun order ↦ ?_⟩⟩
  · rw [mem_updatePids]
    cases current <;> simp
  · rw [get?_updateValues]
    cases current <;> rfl
  · exact SortedSet.sorted (SortedMap.keys _)
  · exact (SortedSet.sorted _).imp Probe.precedes_iff_octetTuple.1
  · rw [applyIn_congr c x order Slot.mergeOrder, applyIn_mergeOrder]

/-- What is both added and removed is gone from a set of processes and stays in a set of probes. -/
example :
    let probes := Site.probes ⟨"f", "m", 0⟩ (.ofList [2])
    updatePids (some (.ofList [1, 2])) (.ofList [2]) (.ofList [2]) = .ofList [1] ∧
      updateProbes ∅ probes probes = probes := by
  decide

end Configuration

end TraceReconciler
