import TraceReconciler.Configuration.Wire

/-!
# Snapshots

A configuration together with the version of the format it is kept in. A text in another format is
refused, but only when its shape is that of a snapshot: the version is looked at after the whole
text has been read.

`EngineError` collects what can be wrong with texts that come from outside: snapshots, names of
features, and requests.
-/

namespace TraceReconciler

open Json

/-- What is wrong with something that came from outside as text. -/
inductive EngineError where
  /-- A configuration or a snapshot that cannot be read. -/
  | invalidSnapshot (reason : String)
  /-- A snapshot in another format. -/
  | versionMismatch (expected actual : UInt32)
  /-- A name that means no feature. -/
  | unknownFeature (name : String)
  /-- A change or another request that cannot be read. -/
  | invalidAction (reason : String)
deriving DecidableEq

/-- The message of an error. -/
def EngineError.message : EngineError → String
  | .invalidSnapshot r => "invalid snapshot: " ++ r
  | .versionMismatch e a =>
    "snapshot format version mismatch: expected " ++ String.ofList (Text.digits e.toNat)
      ++ ", got " ++ String.ofList (Text.digits a.toNat)
  | .unknownFeature n => "unknown feature: " ++ n
  | .invalidAction r => "invalid action: " ++ r

/-- **The slot that a name means**, or the name as it was given. -/
def Slot.ofName (name : String) : Except EngineError Slot :=
  match Slot.ofName? name with
  | some s => .ok s
  | none => .error (.unknownFeature name)

/-! ### Snapshots -/

/-- The version of the format in use. -/
def snapshotVersion : UInt32 := 1

/-- A configuration as it is kept. -/
structure Snapshot where
  formatVersion : UInt32
  configuration : Configuration
deriving DecidableEq

namespace Snapshot

/-- A configuration in the format in use. -/
def ofConfiguration (c : Configuration) : Snapshot := ⟨snapshotVersion, c⟩

/-- A snapshot as an object. -/
def toJson (s : Snapshot) : Value :=
  .object [("formatVersion", .nat s.formatVersion.toNat), ("configuration", s.configuration.toJson)]

/-- The compact text of a snapshot. -/
def text (s : Snapshot) : String := s.toJson.text

/-- The pretty text of a snapshot. -/
def prettyText (s : Snapshot) : String := s.toJson.prettyText

/-- The fields of a snapshot. -/
inductive Field where
  | formatVersion (v : UInt32)
  | configuration (c : Configuration)

namespace Field

def formatVersion? : Field → Option UInt32
  | .formatVersion v => some v
  | _ => none

def configuration? : Field → Option Configuration
  | .configuration c => some c
  | _ => none

/-- The field with a name. -/
def named? (name : String) : Option (Decoder Field) :=
  if name = "formatVersion" then some fun o n ↦ formatVersion <$> word32 o n
  else if name = "configuration" then some fun o n ↦ configuration <$> Configuration.decode o n
  else none

end Field

/-- A snapshot as a record, in whatever version. -/
def record : Record Snapshot where
  expected := "struct ConfigurationSnapshot"
  ofMembers o members tail := do
    let fs ← fields Field.named? o tail [] members
    let v ← required "formatVersion" (fs.findSome? Field.formatVersion?)
    let c ← required "configuration" (fs.findSome? Field.configuration?)
    .ok ⟨v, c⟩
  ofItems o items tail := do
    let whole := "struct ConfigurationSnapshot with 2 elements"
    let (x, items) ← takeItem 0 whole items tail
    let v ← word32 o x
    let (x, items) ← takeItem 1 whole items tail
    let c ← Configuration.decode o x
    .ok (⟨v, c⟩, 2, items)

/-- **The snapshot that a text is**, in the format in use. -/
def ofText (text : String) : Except EngineError Snapshot :=
  match decodeText record.decode text with
  | .error f => .error (.invalidSnapshot f.message)
  | .ok s =>
    if s.formatVersion = snapshotVersion then .ok s
    else .error (.versionMismatch snapshotVersion s.formatVersion)

end Snapshot

end TraceReconciler
