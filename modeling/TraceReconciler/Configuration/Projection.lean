import TraceReconciler.Configuration.Merge

/-!
# What a configuration means for some processes

A screen that edits some processes shows one **option** for each feature that is switched per
process, and one for each probe in one of these processes. An option says for which processes the
feature is on, whether one of the relevant processes is among them, and how to switch it again.
-/

namespace TraceReconciler

/-- A feature as seen by some processes. -/
structure FeatureOption where
  /-- The feature, with the payload that switches it on again. -/
  feature : Feature
  /-- Whether it is on for one of the relevant processes. -/
  enabled : Bool
  /-- All processes for which it is on. -/
  pids : PidSet
deriving DecidableEq

namespace Configuration

/-- The threshold in use: the one of the first process that has one. -/
def thresholdInUse (c : Configuration) : Threshold :=
  match c.sendMessage with
  | some ⟨(_, t) :: _, _⟩ => t
  | _ => defaultThreshold

/-- The features that have one option each, in order. -/
def switches (c : Configuration) : List Feature :=
  [.vfsWrite, .sendMessage c.thresholdInUse, .jniReferences, .sigquit, .gc, .openFiles]

/-- The option of a feature that is switched per process. -/
def optionOf (c : Configuration) (relevant : List Pid) (f : Feature) : FeatureOption :=
  let pids := c.pids f.slot
  { feature := f
    enabled := relevant.any fun p ↦ decide (p ∈ pids)
    pids := pids }

/-- The option of a probe, which is there only while the probe is. -/
def probeOption (p : Probe) : FeatureOption :=
  { feature := .probe p.site
    enabled := true
    pids := SortedSet.ofList [p.pid] }

/-- **The options of a configuration for some processes.** -/
def options (c : Configuration) (relevant : List Pid) : List FeatureOption :=
  c.switches.map (c.optionOf relevant)
    ++ (c.probes.toList.filter fun p ↦ relevant.contains p.pid).map probeOption

end Configuration

end TraceReconciler
