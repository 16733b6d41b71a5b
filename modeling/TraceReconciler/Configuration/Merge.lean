import TraceReconciler.Configuration.Feature

/-!
# Merging changes into a configuration

Three updates, one for each kind of slot, and the application of a change to the slot of its
feature. An absent slot counts as empty and comes back present, whatever the change: a slot that was
addressed has been configured.

**The two orders.** Sets and maps of processes remove after they add; sets of probes add after they
remove. A change only ever adds or only ever removes, so no change can tell the difference; the
updates on their own can, and their membership lemmas say how.
-/

namespace TraceReconciler

/-- A set of processes with some added and then some removed. -/
def updatePids (current : Option PidSet) (add remove : PidSet) : PidSet :=
  ((current.getD ∅).union add).diff remove

theorem mem_updatePids {current : Option PidSet} {add remove : PidSet} {p : Pid} :
    p ∈ updatePids current add remove ↔ (p ∈ current.getD ∅ ∨ p ∈ add) ∧ p ∉ remove := by
  rw [updatePids, SortedSet.mem_diff, SortedSet.mem_union]

/-- Values for processes with some written over and then some removed, whatever their value. -/
def updateValues {ν : Type} (current : Option (PidMap ν)) (add : PidMap ν) (remove : PidSet) :
    PidMap ν :=
  ((current.getD ∅).union add).eraseAll remove

theorem get?_updateValues {ν : Type} {current : Option (PidMap ν)} {add : PidMap ν}
    {remove : PidSet} {p : Pid} :
    (updateValues current add remove).get? p =
      if p ∈ remove then none else (add.get? p).or ((current.getD ∅).get? p) := by
  rw [updateValues, SortedMap.get?_eraseAll, SortedMap.get?_union]

/-- A set of probes with some removed and then some added. -/
def updateProbes (current add remove : ProbeSet) : ProbeSet :=
  (current.diff remove).union add

theorem mem_updateProbes {current add remove : ProbeSet} {p : Probe} :
    p ∈ updateProbes current add remove ↔ (p ∈ current ∧ p ∉ remove) ∨ p ∈ add := by
  rw [updateProbes, SortedSet.mem_union, SortedSet.mem_diff]

/-- The probes at one site in some processes. -/
def Site.probes (s : Site) (pids : PidSet) : ProbeSet := pids.image fun p ↦ ⟨s, p⟩

theorem Site.mem_probes {s : Site} {pids : PidSet} {p : Probe} :
    p ∈ s.probes pids ↔ p.site = s ∧ p.pid ∈ pids := by
  rw [Site.probes, SortedSet.mem_image]
  constructor
  · rintro ⟨x, hx, rfl⟩
    exact ⟨rfl, hx⟩
  · rintro ⟨rfl, h⟩
    exact ⟨p.pid, h, rfl⟩

namespace Configuration

/-- **A configuration after one change.** Only the slot of the feature changes. -/
def apply (c : Configuration) (change : Change) : Configuration :=
  let add := change.delta.added
  let remove := change.delta.removed
  match change.feature with
  | .vfsWrite => { c with vfsWrite := some (updatePids c.vfsWrite add remove) }
  | .sendMessage threshold =>
    { c with
      sendMessage := some (updateValues c.sendMessage (SortedMap.const add threshold) remove) }
  | .jniReferences => { c with jniReferences := some (updatePids c.jniReferences add remove) }
  | .sigquit => { c with sigquit := some (updatePids c.sigquit add remove) }
  | .gc => { c with gc := some (updatePids c.gc add remove) }
  | .openFiles => { c with openFiles := some (updatePids c.openFiles add remove) }
  | .probe site =>
    { c with probes := updateProbes c.probes (site.probes add) (site.probes remove) }

/-- A configuration after a list of changes, from left to right. -/
def applyAll (c : Configuration) (changes : List Change) : Configuration := changes.foldl apply c

@[simp] theorem applyAll_nil (c : Configuration) : c.applyAll [] = c := rfl

@[simp] theorem applyAll_cons (c : Configuration) (x : Change) (l : List Change) :
    c.applyAll (x :: l) = (c.apply x).applyAll l := rfl

theorem applyAll_append (c : Configuration) (l m : List Change) :
    c.applyAll (l ++ m) = (c.applyAll l).applyAll m := List.foldl_append

end Configuration

end TraceReconciler
