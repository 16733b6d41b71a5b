import TraceReconciler.Ordered.Map

/-!
# Tracing configurations

What is traced, and for which processes. A configuration has seven **slots**, one per feature: five
hold a set of processes, one a threshold per process, and one a set of probes, each of which belongs
to a process.

**Absent is not empty.** Six slots may be absent, which says that nobody ever configured the
feature; a slot that is there and empty says that it is off for everyone. The two are different
configurations, although neither traces anything (`Configuration.isEmpty`).
-/

namespace TraceReconciler

/-- The number of a process. -/
abbrev Pid := UInt32

/-- A duration in nanoseconds. -/
abbrev Threshold := UInt64

/-- A set of processes. -/
abbrev PidSet := SortedSet Pid

/-- A value for some processes. -/
abbrev PidMap (ν : Type) := SortedMap Pid ν

/-- The threshold from which a blocking call is reported unless another one is asked for. -/
def defaultThreshold : Threshold := 32000000

/-! ### Probes -/

/-- A place in a program. -/
structure Site where
  /-- The symbol. -/
  function : String
  /-- The binary that contains the symbol. -/
  module : String
  /-- The offset inside the symbol's binary. -/
  offset : UInt64
deriving DecidableEq, Inhabited

/-- A place watched in one process. -/
structure Probe where
  site : Site
  pid : Pid
deriving DecidableEq, Inhabited

/-- What orders sites: function, then module, then offset. -/
def Site.key (s : Site) : String × String × UInt64 := (s.function, s.module, s.offset)

theorem Site.key_inj (s t : Site) (h : s.key = t.key) : s = t := by
  cases s
  cases t
  simp only [Site.key, Prod.mk.injEq] at h
  obtain ⟨rfl, rfl, rfl⟩ := h
  rfl

instance : SortKey Site := SortKey.ofInjective Site.key Site.key_inj

/-- What orders probes: site, then process. -/
def Probe.key (p : Probe) : Site × Pid := (p.site, p.pid)

theorem Probe.key_inj (p q : Probe) (h : p.key = q.key) : p = q := by
  cases p
  cases q
  simp only [Probe.key, Prod.mk.injEq] at h
  obtain ⟨rfl, rfl⟩ := h
  rfl

/-- **Probes are ordered by function, module, offset and process**, in this order. -/
instance : SortKey Probe := SortKey.ofInjective Probe.key Probe.key_inj

/-- A set of probes. -/
abbrev ProbeSet := SortedSet Probe

/-! ### Slots -/

/-- The features that a configuration has a slot for. -/
inductive Slot where
  | vfsWrite
  | sendMessage
  | jniReferences
  | sigquit
  | gc
  | openFiles
  | probe
deriving DecidableEq, Inhabited

/-- All slots, in the order in which they are listed. -/
def Slot.all : List Slot :=
  [.vfsWrite, .sendMessage, .jniReferences, .sigquit, .gc, .openFiles, .probe]

/-- The name of a slot. -/
def Slot.name : Slot → String
  | .vfsWrite => "vfs_write"
  | .sendMessage => "send_message"
  | .jniReferences => "jni_references"
  | .sigquit => "sigquit"
  | .gc => "gc"
  | .openFiles => "open_file_descriptors"
  | .probe => "uprobe"

/-- The place of a slot in the list of all slots. -/
def Slot.index (s : Slot) : Nat := Slot.all.idxOf s

/-! ### Configurations -/

/-- What is traced for whom. -/
structure Configuration where
  vfsWrite : Option PidSet := none
  sendMessage : Option (PidMap Threshold) := none
  probes : ProbeSet := ∅
  jniReferences : Option PidSet := none
  sigquit : Option PidSet := none
  gc : Option PidSet := none
  openFiles : Option PidSet := none
deriving DecidableEq

namespace Configuration

/-- **The canonical empty configuration**: no slot was ever configured. -/
def empty : Configuration := {}

instance : EmptyCollection Configuration := ⟨empty⟩

instance : Inhabited Configuration := ⟨empty⟩

/-- The processes for which a feature is on; an absent slot is on for none. -/
def pids (c : Configuration) : Slot → PidSet
  | .vfsWrite => c.vfsWrite.getD ∅
  | .sendMessage => (c.sendMessage.getD ∅).keys
  | .jniReferences => c.jniReferences.getD ∅
  | .sigquit => c.sigquit.getD ∅
  | .gc => c.gc.getD ∅
  | .openFiles => c.openFiles.getD ∅
  | .probe => c.probes.image Probe.pid

/-- Whether a feature is on for a process. Thresholds and probes are asked themselves, without the
set of their processes. -/
def isEnabledFor (c : Configuration) (s : Slot) (pid : Pid) : Bool :=
  match s with
  | .sendMessage => c.sendMessage.any fun m ↦ m.contains pid
  | .probe => c.probes.toList.any fun q ↦ q.pid == pid
  | s => decide (pid ∈ c.pids s)

/-- **A feature is on for its processes**, whichever way it is asked. -/
theorem isEnabledFor_iff {c : Configuration} {s : Slot} {pid : Pid} :
    c.isEnabledFor s pid = true ↔ pid ∈ c.pids s := by
  cases s with
  | sendMessage =>
    rw [isEnabledFor, pids, SortedMap.mem_keys_iff_isSome]
    cases c.sendMessage with
    | none => exact iff_of_false Bool.false_ne_true Bool.false_ne_true
    | some m => rfl
  | probe => simp [isEnabledFor, pids, SortedSet.mem_image, SortedSet.mem_toList]
  | _ => exact decide_eq_true_iff

/-- Whether no feature is on for any process. -/
def isEmpty (c : Configuration) : Bool := Slot.all.all fun s ↦ (c.pids s).isEmpty

end Configuration

end TraceReconciler
