import TraceReconciler.Configuration.Projection
import TraceReconciler.Json.Decoder
import TraceReconciler.Json.Value

/-!
# Configurations, features and changes as JSON

Beside each writer stands the reader of what it writes. Writers have one form for each value;
readers take more: members in any order, unknown members, a record as an array of its fields, sets
with repetitions in any order.

An absent slot is written `null` and may be left out. Probes are written as an array and may be left
out when there are none, but are never `null`.
-/

namespace TraceReconciler

open Json

/-! ### Processes -/

/-- A set of processes as an array. -/
def PidSet.toJson (s : PidSet) : Value := .array (s.toList.map fun p ↦ .nat p.toNat)

/-- A set of processes. -/
def PidSet.decode : Decoder PidSet := fun o n ↦ SortedSet.ofList <$> list word32 o n

/-- Thresholds of processes as an object. -/
def thresholdsToJson (m : PidMap Threshold) : Value :=
  .object (m.entries.map fun e ↦ (String.ofList (Text.digits e.1.toNat), .nat e.2.toNat))

/-- Thresholds of processes. -/
def decodeThresholds : Decoder (PidMap Threshold) := fun o n ↦
  SortedMap.ofList <$> wordMap word64 o n

/-- A value that may be absent. -/
def absentOr {α : Type} (toJson : α → Value) : Option α → Value
  | none => .null
  | some v => toJson v

/-! ### Probes -/

/-- A probe as an object. -/
def Probe.toJson (p : Probe) : Value :=
  .object [("functionName", .string p.site.function), ("targetModule", .string p.site.module),
    ("offset", .nat p.site.offset.toNat), ("pid", .nat p.pid.toNat)]

/-- The fields of a probe. -/
inductive ProbeField where
  | function (s : String)
  | module (s : String)
  | offset (n : UInt64)
  | pid (p : Pid)

namespace ProbeField

def function? : ProbeField → Option String
  | .function s => some s
  | _ => none

def module? : ProbeField → Option String
  | .module s => some s
  | _ => none

def offset? : ProbeField → Option UInt64
  | .offset n => some n
  | _ => none

def pid? : ProbeField → Option Pid
  | .pid p => some p
  | _ => none

/-- The field with a name. -/
def named? (name : String) : Option (Decoder ProbeField) :=
  if name = "functionName" then some fun o n ↦ function <$> Json.string o n
  else if name = "targetModule" then some fun o n ↦ module <$> Json.string o n
  else if name = "offset" then some fun o n ↦ offset <$> word64 o n
  else if name = "pid" then some fun o n ↦ pid <$> word32 o n
  else none

end ProbeField

/-- A probe as a record. -/
def Probe.record : Record Probe where
  expected := "struct UprobeSpec"
  ofMembers o members tail := do
    let fs ← fields ProbeField.named? o tail [] members
    let f ← required "functionName" (fs.findSome? ProbeField.function?)
    let m ← required "targetModule" (fs.findSome? ProbeField.module?)
    let k ← required "offset" (fs.findSome? ProbeField.offset?)
    let p ← required "pid" (fs.findSome? ProbeField.pid?)
    .ok ⟨⟨f, m, k⟩, p⟩
  ofItems o items tail := do
    let whole := "struct UprobeSpec with 4 elements"
    let (x, items) ← takeItem 0 whole items tail
    let f ← Json.string o x
    let (x, items) ← takeItem 1 whole items tail
    let m ← Json.string o x
    let (x, items) ← takeItem 2 whole items tail
    let k ← word64 o x
    let (x, items) ← takeItem 3 whole items tail
    let p ← word32 o x
    .ok (⟨⟨f, m, k⟩, p⟩, 4, items)

/-- A probe. -/
def Probe.decode : Decoder Probe := Probe.record.decode

/-- A set of probes as an array. -/
def ProbeSet.toJson (s : ProbeSet) : Value := .array (s.toList.map Probe.toJson)

/-- A set of probes. -/
def ProbeSet.decode : Decoder ProbeSet := fun o n ↦ SortedSet.ofList <$> list Probe.decode o n

/-! ### Configurations -/

/-- A configuration as an object of its slots. -/
def Configuration.toJson (c : Configuration) : Value :=
  .object [("vfsWrite", absentOr PidSet.toJson c.vfsWrite),
    ("sysSendmsg", absentOr thresholdsToJson c.sendMessage),
    ("uprobes", ProbeSet.toJson c.probes),
    ("jniReferences", absentOr PidSet.toJson c.jniReferences),
    ("sysSigquit", absentOr PidSet.toJson c.sigquit),
    ("gc", absentOr PidSet.toJson c.gc),
    ("sysFdTracking", absentOr PidSet.toJson c.openFiles)]

/-- The fields of a configuration. -/
inductive ConfigurationField where
  | vfsWrite (s : Option PidSet)
  | sendMessage (m : Option (PidMap Threshold))
  | probes (s : ProbeSet)
  | jniReferences (s : Option PidSet)
  | sigquit (s : Option PidSet)
  | gc (s : Option PidSet)
  | openFiles (s : Option PidSet)

namespace ConfigurationField

def vfsWrite? : ConfigurationField → Option (Option PidSet)
  | .vfsWrite s => some s
  | _ => none

def sendMessage? : ConfigurationField → Option (Option (PidMap Threshold))
  | .sendMessage m => some m
  | _ => none

def probes? : ConfigurationField → Option ProbeSet
  | .probes s => some s
  | _ => none

def jniReferences? : ConfigurationField → Option (Option PidSet)
  | .jniReferences s => some s
  | _ => none

def sigquit? : ConfigurationField → Option (Option PidSet)
  | .sigquit s => some s
  | _ => none

def gc? : ConfigurationField → Option (Option PidSet)
  | .gc s => some s
  | _ => none

def openFiles? : ConfigurationField → Option (Option PidSet)
  | .openFiles s => some s
  | _ => none

/-- The field with a name. -/
def named? (name : String) : Option (Decoder ConfigurationField) :=
  if name = "vfsWrite" then some fun o n ↦ vfsWrite <$> optional PidSet.decode o n
  else if name = "sysSendmsg" then some fun o n ↦ sendMessage <$> optional decodeThresholds o n
  else if name = "uprobes" then some fun o n ↦ probes <$> ProbeSet.decode o n
  else if name = "jniReferences" then some fun o n ↦ jniReferences <$> optional PidSet.decode o n
  else if name = "sysSigquit" then some fun o n ↦ sigquit <$> optional PidSet.decode o n
  else if name = "gc" then some fun o n ↦ gc <$> optional PidSet.decode o n
  else if name = "sysFdTracking" then some fun o n ↦ openFiles <$> optional PidSet.decode o n
  else none

end ConfigurationField

/-- The configuration of some fields; a slot without a field is absent. -/
def Configuration.ofFields (fs : List ConfigurationField) : Configuration where
  vfsWrite := (fs.findSome? ConfigurationField.vfsWrite?).getD none
  sendMessage := (fs.findSome? ConfigurationField.sendMessage?).getD none
  probes := (fs.findSome? ConfigurationField.probes?).getD ∅
  jniReferences := (fs.findSome? ConfigurationField.jniReferences?).getD none
  sigquit := (fs.findSome? ConfigurationField.sigquit?).getD none
  gc := (fs.findSome? ConfigurationField.gc?).getD none
  openFiles := (fs.findSome? ConfigurationField.openFiles?).getD none

/-- A configuration as a record. In an array, every slot has to be there but the probes: an array
that ends before them has none, and counts them as read. -/
def Configuration.record : Record Configuration where
  expected := "struct Configuration"
  ofMembers o members tail := do
    let fs ← fields ConfigurationField.named? o tail [] members
    .ok (.ofFields fs)
  ofItems o items tail := do
    let whole := "struct Configuration with 7 elements"
    let slot := optional PidSet.decode
    let (x, items) ← takeItem 0 whole items tail
    let vfsWrite ← slot o x
    let (x, items) ← takeItem 1 whole items tail
    let sendMessage ← optional decodeThresholds o x
    let (probes, items) ← match items with
      | [] => do
        tail.finish
        .ok ((∅ : ProbeSet), [])
      | x :: items => do
        let s ← ProbeSet.decode o x
        .ok (s, items)
    let (x, items) ← takeItem 3 whole items tail
    let jniReferences ← slot o x
    let (x, items) ← takeItem 4 whole items tail
    let sigquit ← slot o x
    let (x, items) ← takeItem 5 whole items tail
    let gc ← slot o x
    let (x, items) ← takeItem 6 whole items tail
    let openFiles ← slot o x
    .ok ({ vfsWrite, sendMessage, probes, jniReferences, sigquit, gc, openFiles }, 7, items)

/-- A configuration. -/
def Configuration.decode : Decoder Configuration := Configuration.record.decode

/-- The configuration that a text is. -/
def Configuration.ofText (text : String) : Except Fault Configuration :=
  decodeText Configuration.decode text

/-- The compact text of a configuration. -/
def Configuration.text (c : Configuration) : String := c.toJson.text

/-! ### Slots and features -/

/-- The names of all slots. -/
def Slot.names : List (String × Slot) := Slot.all.map fun s ↦ (s.name, s)

/-- A slot by its name. -/
def Slot.decode : Decoder Slot := bareName Slot.names

/-- A slot as its name. -/
def Slot.toJson (s : Slot) : Value := .string s.name

/-- The member that names the feature. -/
def Feature.toJson (f : Feature) : Value :=
  let tag := ("type", Value.string f.slot.name)
  match f with
  | .sendMessage t => .object [tag, ("threshold", .nat t.toNat)]
  | .probe s =>
    .object [tag, ("functionName", .string s.function), ("targetModule", .string s.module),
      ("offset", .nat s.offset.toNat)]
  | _ => .object [tag]

/-- The threshold of a feature that has one. -/
def Feature.thresholdRecord : Record Feature where
  expected := "struct variant Feature::SendMessage"
  ofMembers o members tail := do
    let fs ← fields (fun name ↦ if name = "threshold" then some word64 else none) o tail [] members
    let t ← required "threshold" fs.head?
    .ok (.sendMessage t)
  ofItems o items tail := do
    let (x, items) ← takeItem 0 "struct variant Feature::SendMessage with 1 element" items tail
    let t ← word64 o x
    .ok (.sendMessage t, 1, items)

/-- The fields of a site are those of a probe without the process. -/
def siteField? (name : String) : Option (Decoder ProbeField) :=
  if name = "pid" then none else ProbeField.named? name

/-- The site of a feature that has one. -/
def Feature.siteRecord : Record Feature where
  expected := "struct variant Feature::Uprobe"
  ofMembers o members tail := do
    let fs ← fields siteField? o tail [] members
    let f ← required "functionName" (fs.findSome? ProbeField.function?)
    let m ← required "targetModule" (fs.findSome? ProbeField.module?)
    let k ← required "offset" (fs.findSome? ProbeField.offset?)
    .ok (.probe ⟨f, m, k⟩)
  ofItems o items tail := do
    let whole := "struct variant Feature::Uprobe with 3 elements"
    let (x, items) ← takeItem 0 whole items tail
    let f ← Json.string o x
    let (x, items) ← takeItem 1 whole items tail
    let m ← Json.string o x
    let (x, items) ← takeItem 2 whole items tail
    let k ← word64 o x
    .ok (.probe ⟨f, m, k⟩, 3, items)

/-- The content that belongs to the name of each feature. -/
def Feature.contents : List (String × Decoder Feature) :=
  [(Slot.vfsWrite.name, noFields .vfsWrite),
    (Slot.sendMessage.name, Feature.thresholdRecord.decode),
    (Slot.jniReferences.name, noFields .jniReferences),
    (Slot.sigquit.name, noFields .sigquit),
    (Slot.gc.name, noFields .gc),
    (Slot.openFiles.name, noFields .openFiles),
    (Slot.probe.name, Feature.siteRecord.decode)]

/-- A feature. -/
def Feature.decode : Decoder Feature :=
  tagged "type" "internally tagged enum Feature" Feature.contents

/-! ### Deltas, changes, actions, options -/

/-- A delta as an object of its direction and its processes. -/
def PidDelta.toJson (d : PidDelta) : Value :=
  let op := match d with
    | .add _ => "add"
    | .remove _ => "remove"
  .object [("op", .string op), ("pids", PidSet.toJson d.pids)]

/-- How the direction of a delta stands beside its processes. -/
def PidDelta.adjacent : Adjacent (PidSet → PidDelta) PidDelta where
  expected := "adjacently tagged enum PidDelta"
  tag := "op"
  content := "pids"
  alternatives := [("add", .add), ("remove", .remove)]
  decode make := fun o n ↦ make <$> PidSet.decode o n
  absent _ := .error (.missingField "pids")

/-- A delta. -/
def PidDelta.decode : Decoder PidDelta := PidDelta.adjacent.decoder

/-- The members of a change. -/
def Change.members (c : Change) : List (String × Value) :=
  [("feature", c.feature.toJson), ("enable", .boolean c.enable), ("pids", PidSet.toJson c.pids)]

/-- A change as an object. -/
def Change.toJson (c : Change) : Value := .object c.members

/-- The fields of a change. -/
inductive ChangeField where
  | feature (f : Feature)
  | enable (b : Bool)
  | pids (s : PidSet)

namespace ChangeField

def feature? : ChangeField → Option Feature
  | .feature f => some f
  | _ => none

def enable? : ChangeField → Option Bool
  | .enable b => some b
  | _ => none

def pids? : ChangeField → Option PidSet
  | .pids s => some s
  | _ => none

/-- The field with a name. -/
def named? (name : String) : Option (Decoder ChangeField) :=
  if name = "feature" then some fun o n ↦ feature <$> Feature.decode o n
  else if name = "enable" then some fun o n ↦ enable <$> boolean o n
  else if name = "pids" then some fun o n ↦ pids <$> PidSet.decode o n
  else none

end ChangeField

/-- A change as a record. -/
def Change.record : Record Change where
  expected := "struct ChangeFeature"
  ofMembers o members tail := do
    let fs ← fields ChangeField.named? o tail [] members
    let f ← required "feature" (fs.findSome? ChangeField.feature?)
    let e ← required "enable" (fs.findSome? ChangeField.enable?)
    let p ← required "pids" (fs.findSome? ChangeField.pids?)
    .ok ⟨f, e, p⟩
  ofItems o items tail := do
    let whole := "struct ChangeFeature with 3 elements"
    let (x, items) ← takeItem 0 whole items tail
    let f ← Feature.decode o x
    let (x, items) ← takeItem 1 whole items tail
    let e ← boolean o x
    let (x, items) ← takeItem 2 whole items tail
    let p ← PidSet.decode o x
    .ok (⟨f, e, p⟩, 3, items)

/-- A change. -/
def Change.decode : Decoder Change := Change.record.decode

/-- An action as an object: its name, and the members of a change. -/
def Action.toJson (a : Action) : Value :=
  let tag := ("type", Value.string a.name)
  match a with
  | .change c => .object (tag :: c.members)
  | _ => .object [tag]

/-- The content that belongs to the name of each action. -/
def Action.contents : List (String × Decoder Action) :=
  [("change_feature", fun o n ↦ .change <$> Change.decode o n),
    ("synchronize", noFields .synchronize),
    ("reset", noFields .reset),
    ("retry", noFields .retry)]

/-- An action. -/
def Action.decode : Decoder Action :=
  tagged "type" "internally tagged enum ConfigurationAction" Action.contents

/-- An option as an object. -/
def FeatureOption.toJson (x : FeatureOption) : Value :=
  .object [("feature", x.feature.toJson), ("enabled", .boolean x.enabled),
    ("pids", PidSet.toJson x.pids)]

/-- The field of an option with a name: those of a change, one of them by another name. -/
def optionField? (name : String) : Option (Decoder ChangeField) :=
  if name = "enabled" then ChangeField.named? "enable"
  else if name = "enable" then none
  else ChangeField.named? name

/-- An option as a record. -/
def FeatureOption.record : Record FeatureOption where
  expected := "struct FeatureOption"
  ofMembers o members tail := do
    let fs ← fields optionField? o tail [] members
    let f ← required "feature" (fs.findSome? ChangeField.feature?)
    let e ← required "enabled" (fs.findSome? ChangeField.enable?)
    let p ← required "pids" (fs.findSome? ChangeField.pids?)
    .ok ⟨f, e, p⟩
  ofItems o items tail := do
    let whole := "struct FeatureOption with 3 elements"
    let (x, items) ← takeItem 0 whole items tail
    let f ← Feature.decode o x
    let (x, items) ← takeItem 1 whole items tail
    let e ← boolean o x
    let (x, items) ← takeItem 2 whole items tail
    let p ← PidSet.decode o x
    .ok (⟨f, e, p⟩, 3, items)

/-- An option. -/
def FeatureOption.decode : Decoder FeatureOption := FeatureOption.record.decode

end TraceReconciler
