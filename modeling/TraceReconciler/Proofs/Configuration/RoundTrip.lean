import TraceReconciler.Configuration.Snapshot
import TraceReconciler.Proofs.Json.MemberOrder

/-!
# Configurations and snapshots survive being written

What is written of a configuration is read as that configuration, slot by slot: a set of processes,
a threshold per process, a set of probes, and for each of the others whether it is there at all. The
same holds for a snapshot, in the compact and in the pretty layout.

Each statement follows the definition of the writer, with the room for brackets that its reader
needs: one bracket for a set of processes or for thresholds, two for a set of probes, three for a
configuration and four for a snapshot, of the 127 that a text may open.

**Thresholds are the exception.** Their keys are numbers between quotes, which only a live text has,
so whether a configuration is restored hangs on them alone (`Configuration.decode_of_thresholds`).
-/

namespace TraceReconciler

open Json

variable {o o' : Origin}

/-! ### Sets, thresholds, probes -/

theorem inAnyOrder_pidSet : RestoresInAnyOrder 1 PidSet.decode PidSet.toJson :=
  (inAnyOrder_word32 0).list.map SortedSet.ofList_toList

theorem restores_thresholds (room : Nat) :
    Restores decodeThresholds (.live (room + 1)) thresholdsToJson :=
  (restores_word64 (.live room)).wordMap.map SortedMap.ofList_entries

theorem inAnyOrder_probe : RestoresInAnyOrder 1 Probe.decode Probe.toJson := by
  intro o p w ho hw
  refine Record.decode_reordered (fun _ _ _ ↦ rfl) (fun o ho ↦
    .cons (.of_restores (inAnyOrder_string 0) ho rfl p.site.function)
      (.cons (.of_restores (inAnyOrder_string 0) ho rfl p.site.module)
        (.cons (.of_restores (inAnyOrder_word64 0) ho rfl p.site.offset)
          (.cons (.of_restores (inAnyOrder_word32 0) ho rfl p.pid) .nil))))
    (by simp) (fun ws hws ↦ ?_) ho hw
  have hfunction := findSome?_of_perm (f := ProbeField.function?) hws rfl
  have hmodule := findSome?_of_perm (f := ProbeField.module?) hws rfl
  have hoffset := findSome?_of_perm (f := ProbeField.offset?) hws rfl
  have hpid := findSome?_of_perm (f := ProbeField.pid?) hws rfl
  rw [hfunction, hmodule, hoffset, hpid]
  rfl

theorem inAnyOrder_probeSet : RestoresInAnyOrder 2 ProbeSet.decode ProbeSet.toJson :=
  inAnyOrder_probe.list.map SortedSet.ofList_toList

/-! ### Slots -/

/-- **A slot that may be absent is restored**, if nothing that is there is written as `null`. -/
theorem Json.Restores.optional {α : Type} {decode : Decoder α} {write : α → Value}
    (h : Restores decode o write) (hnull : ∀ a, (write a).node ≠ .null) :
    Restores (optional decode) o (absentOr write) := by
  intro slot
  cases slot with
  | none => rfl
  | some a =>
    show Json.optional decode o (write a).node = .ok (some a)
    rw [Json.optional]
    · rw [h a]
      rfl
    · exact hnull a

theorem restores_pidSlot (ho : o.Allows 1) :
    Restores (optional PidSet.decode) o (absentOr PidSet.toJson) :=
  (inAnyOrder_pidSet.restores ho).optional fun _ ↦ nofun

theorem restores_thresholdSlot (room : Nat) :
    Restores (optional decodeThresholds) (.live (room + 1)) (absentOr thresholdsToJson) :=
  (restores_thresholds room).optional fun _ ↦ nofun

/-! ### Configurations -/

/-- **A configuration is restored if its thresholds are**, wherever it comes from. -/
theorem Configuration.decode_of_thresholds (henter : o.enter = .ok o') (ho : o'.Allows 2)
    {c : Configuration} (hthresholds : optional decodeThresholds o'
      (absentOr thresholdsToJson c.sendMessage).node = .ok c.sendMessage) :
    Configuration.decode o c.toJson.node = .ok c := by
  have hpids := restores_pidSlot (ho.mono (Nat.le_succ 1))
  have hfields : fields ConfigurationField.named? o' .closed []
      (Value.memberNodes [("vfsWrite", absentOr PidSet.toJson c.vfsWrite),
        ("sysSendmsg", absentOr thresholdsToJson c.sendMessage),
        ("uprobes", ProbeSet.toJson c.probes),
        ("jniReferences", absentOr PidSet.toJson c.jniReferences),
        ("sysSigquit", absentOr PidSet.toJson c.sigquit),
        ("gc", absentOr PidSet.toJson c.gc),
        ("sysFdTracking", absentOr PidSet.toJson c.openFiles)]) =
      .ok [.vfsWrite c.vfsWrite, .sendMessage c.sendMessage, .probes c.probes,
        .jniReferences c.jniReferences, .sigquit c.sigquit, .gc c.gc, .openFiles c.openFiles] :=
    fields_memberNodes
      (.cons (.of_restores hpids rfl c.vfsWrite)
        (.cons (.of_decode hthresholds rfl)
          (.cons (.of_restores (inAnyOrder_probeSet.restores ho) rfl c.probes)
            (.cons (.of_restores hpids rfl c.jniReferences)
              (.cons (.of_restores hpids rfl c.sigquit)
                (.cons (.of_restores hpids rfl c.gc)
                  (.cons (.of_restores hpids rfl c.openFiles) .nil)))))))
      (by simp) (fun _ _ ↦ List.not_mem_nil)
  rw [Configuration.decode, Configuration.toJson, decode_object _ henter]
  show (fields ConfigurationField.named? o' .closed [] _ >>= _) = .ok c
  rw [hfields]
  rfl

/-- A configuration whose thresholds cannot be read is not read: nothing before them is at fault. -/
theorem Configuration.decode_of_fault (henter : o.enter = .ok o') (ho : o'.Allows 1)
    {c : Configuration} {e : Fault} (hthresholds : optional decodeThresholds o'
      (absentOr thresholdsToJson c.sendMessage).node = .error e) :
    Configuration.decode o c.toJson.node = .error e := by
  have hvfs := restores_pidSlot ho c.vfsWrite
  rw [Configuration.decode, Configuration.toJson, decode_object _ henter]
  show (fields ConfigurationField.named? o' .closed [] _ >>= _) = .error e
  rw [fields_cons rfl List.not_mem_nil, fields_cons rfl (by simp)]
  simp only [hvfs, hthresholds]
  rfl

/-- **A configuration is restored.** -/
theorem restores_configuration (room : Nat) :
    Restores Configuration.decode (.live (room + 3)) Configuration.toJson := by
  intro c
  have ho : (Origin.live (room + 2)).Allows 2 := Nat.le_add_left 2 room
  exact Configuration.decode_of_thresholds rfl ho (restores_thresholdSlot (room + 1) c.sendMessage)

theorem Configuration.ofText_text (c : Configuration) : Configuration.ofText c.text = .ok c :=
  decodeText_text (restores_configuration 124) c

/-! ### Snapshots -/

/-- **A snapshot is restored**, whatever its version: the version is looked at after reading. -/
theorem restores_snapshot (room : Nat) :
    Restores Snapshot.record.decode (.live (room + 4)) Snapshot.toJson := by
  intro s
  have hfields : fields Snapshot.Field.named? (.live (room + 3)) .closed []
      (Value.memberNodes [("formatVersion", .nat s.formatVersion.toNat),
        ("configuration", s.configuration.toJson)]) =
      .ok [.formatVersion s.formatVersion, .configuration s.configuration] :=
    fields_memberNodes
      (.cons (.of_restores (restores_word32 _) rfl s.formatVersion)
        (.cons (.of_restores (restores_configuration room) rfl s.configuration) .nil))
      (by simp) (fun _ _ ↦ List.not_mem_nil)
  rw [Snapshot.toJson, decode_object _ rfl]
  show (fields Snapshot.Field.named? (.live (room + 3)) .closed [] _ >>= _) = .ok s
  rw [hfields]
  rfl

namespace Snapshot

/-- **A snapshot in another format is refused**, although it can be read. -/
theorem ofText_text_of_ne {s : Snapshot} (h : s.formatVersion ≠ snapshotVersion) :
    ofText s.text = .error (.versionMismatch snapshotVersion s.formatVersion) := by
  have hread : decodeText record.decode s.text = .ok s := decodeText_text (restores_snapshot 123) s
  rw [ofText, hread]
  exact if_neg h

theorem ofText_eq_ok {text : String} {c : Configuration}
    (h : decodeText record.decode text = .ok (ofConfiguration c)) :
    ofText text = .ok (ofConfiguration c) := by
  rw [ofText, h]
  rfl

theorem ofText_text (c : Configuration) :
    ofText (ofConfiguration c).text = .ok (ofConfiguration c) :=
  ofText_eq_ok (decodeText_text (restores_snapshot 123) _)

theorem ofText_prettyText (c : Configuration) :
    ofText (ofConfiguration c).prettyText = .ok (ofConfiguration c) :=
  ofText_eq_ok (decodeText_prettyText (restores_snapshot 123) _)

end Snapshot

/-- **Nothing is lost by writing a configuration.** Its text is read as it, and each of the two
texts of its snapshot as that snapshot, for every configuration there is: absent and empty slots are
told apart, and numbers, names and control characters come back as they were. -/
theorem Configuration.restored_from_texts (c : Configuration) :
    Configuration.ofText c.text = .ok c ∧
      Snapshot.ofText (Snapshot.ofConfiguration c).text = .ok (Snapshot.ofConfiguration c) ∧
      Snapshot.ofText (Snapshot.ofConfiguration c).prettyText =
        .ok (Snapshot.ofConfiguration c) :=
  ⟨c.ofText_text, Snapshot.ofText_text c, Snapshot.ofText_prettyText c⟩

end TraceReconciler
