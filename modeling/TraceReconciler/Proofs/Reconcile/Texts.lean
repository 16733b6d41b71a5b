import TraceReconciler.Proofs.Configuration.Tagged
import TraceReconciler.Reconcile.State

/-!
# Failures and states as texts

A failure has its kind beside its message and is restored from either order of the two. It is the
last of the types that carry a name and hold no configuration; what is written of any of them can be
read in any order of its members (`tagged_types_read_in_any_order`).

A **state** holds configurations, and it is not always read back. Its name stands inside its
content, so the content is kept before it is read, and in what was kept a key is a string and never
a number: reading stops at the first process that has a threshold (`Configuration.decode_kept`),
although the same configuration is read where it stands alone or in a snapshot. What becomes of the
text of a state hangs on its thresholds alone (`State.decode_text`).
-/

namespace TraceReconciler

open Json

/-! ### Failures -/

/-- **A failure is restored**, its message before or after its kind. -/
theorem inAnyOrder_remoteError : RestoresInAnyOrder 1 RemoteError.decode RemoteError.toJson := by
  intro o e w ho hw
  cases e with
  | notFound => exact RemoteError.adjacent.decode_alone rfl rfl ho hw
  | failed m =>
    have hmessage (o : Origin) (v : Value) (ho : o.Allows 0) (hv : Reordered (.string m) v) :
        RemoteError.adjacent.decode true o v.node = .ok (.failed m) := by
      show RemoteError.failed <$> string o v.node = _
      rw [inAnyOrder_string 0 o m v ho hv]
      rfl
    exact RemoteError.adjacent.decode_pair rfl (by decide) (keepable_string 0 m) hmessage ho hw

/-- **Whatever has a name is read in any order of its members**: features, deltas, changes, actions,
failures and options, with the name first, last or in between, also in the feature inside a change,
an action or an option. -/
theorem tagged_types_read_in_any_order :
    ReadInAnyOrder Feature.decode Feature.toJson ∧
      ReadInAnyOrder PidDelta.decode PidDelta.toJson ∧
      ReadInAnyOrder Change.decode Change.toJson ∧
      ReadInAnyOrder Action.decode Action.toJson ∧
      ReadInAnyOrder RemoteError.decode RemoteError.toJson ∧
      ReadInAnyOrder FeatureOption.decode FeatureOption.toJson :=
  ⟨inAnyOrder_feature.readInAnyOrder (by decide), inAnyOrder_delta.readInAnyOrder (by decide),
    inAnyOrder_change.readInAnyOrder (by decide), inAnyOrder_action.readInAnyOrder (by decide),
    inAnyOrder_remoteError.readInAnyOrder (by decide), inAnyOrder_option.readInAnyOrder (by decide)⟩

/-- Read with every object written backwards, so that each name comes after its content. -/
theorem tagged_types_read_in_any_order_backwards :
    decodeText Action.decode (Value.object [("pids", .array [.nat 7]), ("enable", .boolean true),
        ("feature", .object [("threshold", .nat 18446744073709551615),
          ("type", .string "send_message")]),
        ("type", .string "change_feature")]).text =
      .ok (.change ⟨.sendMessage 18446744073709551615, true, .ofList [7]⟩) := by
  refine (tagged_types_read_in_any_order.2.2.2.1
    (.change ⟨.sendMessage 18446744073709551615, true, .ofList [7]⟩) _ ?_).1
  refine .object (.cons (.intro _ (.refl _)) (.cons (.intro _ (.of_perm ?_))
    (.cons (.intro _ (.refl _)) (.cons (.intro _ (.refl _)) .nil)))) (List.reverse_perm _).symm
  exact (List.reverse_perm _).symm

/-! ### Keeping a configuration -/

theorem keepable_absentOr {α : Type} {write : α → Value} {depth : Nat}
    (h : ∀ a, Keepable depth (write a)) : ∀ slot, Keepable depth (absentOr write slot)
  | none => keepable_null depth
  | some a => h a

theorem keepable_thresholds (m : PidMap Threshold) : Keepable 1 (thresholdsToJson m) := by
  refine Keepable.object fun x hx ↦ ?_
  obtain ⟨e, -, rfl⟩ := List.mem_map.1 hx
  exact keepable_nat 0 e.2.toNat_lt

theorem keepable_probe (p : Probe) : Keepable 1 p.toJson := by
  refine Keepable.object ?_
  simpa using ⟨keepable_string 0 p.site.function, keepable_string 0 p.site.module,
    keepable_nat 0 p.site.offset.toNat_lt, keepable_nat 0 (Nat.lt_trans p.pid.toNat_lt (by decide))⟩

theorem keepable_probeSet (s : ProbeSet) : Keepable 2 s.toJson := by
  refine Keepable.array fun x hx ↦ ?_
  obtain ⟨p, -, rfl⟩ := List.mem_map.1 hx
  exact keepable_probe p

/-- **A configuration can be kept**, with its thresholds: they are refused later only, by whoever
reads them. -/
theorem keepable_configuration (c : Configuration) : Keepable 3 c.toJson := by
  have hpids (slot : Option PidSet) : Keepable 2 (absentOr PidSet.toJson slot) :=
    keepable_absentOr (fun s ↦ (keepable_pidSet s).mono (Nat.le_succ 1)) slot
  have hthresholds : Keepable 2 (absentOr thresholdsToJson c.sendMessage) :=
    keepable_absentOr (fun m ↦ (keepable_thresholds m).mono (Nat.le_succ 1)) c.sendMessage
  refine Keepable.object ?_
  simpa [hpids] using ⟨hthresholds, keepable_probeSet c.probes⟩

theorem keepable_remoteError (e : RemoteError) : Keepable 1 e.toJson := by
  cases e <;> exact Keepable.object (by simp [keepable_string])

/-! ### Reading what was kept -/

/-- What is read if there is no process with a threshold, the first of which is refused otherwise:
its number is a text where it was kept. -/
def readUnlessTimed {α : Type} (a : α) : Option Pid → Except Fault α
  | none => .ok a
  | some p => .error (.wrongKind (.string (String.ofList (Text.digits p.toNat))) "u32")

/-- The first process that has a threshold. -/
def Configuration.firstTimed? (c : Configuration) : Option Pid :=
  c.sendMessage.bind fun m ↦ m.keys.toList.head?

theorem decodeThresholds_kept (m : PidMap Threshold) :
    decodeThresholds .kept (thresholdsToJson m).node = readUnlessTimed m m.keys.toList.head? := by
  obtain ⟨entries, h⟩ := m
  cases entries with
  | nil => rfl
  | cons e l =>
    show SortedMap.ofList <$> wordMap word64 .kept (Value.object (_ :: _)).node = _
    simp [wordMap, Value.node, Value.memberNodes, eachEntry, natKey, Origin.enter,
      StringToken.value_ofString, bind, Except.bind, SortedMap.keys, readUnlessTimed]

theorem decodeSlot_kept (c : Configuration) :
    optional decodeThresholds .kept (absentOr thresholdsToJson c.sendMessage).node =
      readUnlessTimed c.sendMessage c.firstTimed? := by
  rw [Configuration.firstTimed?]
  cases c.sendMessage with
  | none => rfl
  | some m =>
    show some <$> decodeThresholds .kept (thresholdsToJson m).node = _
    rw [decodeThresholds_kept]
    show _ = readUnlessTimed (some m) m.keys.toList.head?
    cases m.keys.toList.head? <;> rfl

/-- **A configuration that was kept is read unless it has a threshold.** -/
theorem Configuration.decode_kept (c : Configuration) :
    Configuration.decode .kept c.toJson.node = readUnlessTimed c c.firstTimed? := by
  have hslot := decodeSlot_kept c
  cases h : c.firstTimed? with
  | none =>
    rw [h] at hslot
    exact Configuration.decode_of_thresholds Origin.enter_kept (Origin.allows_kept 2) hslot
  | some p =>
    rw [h] at hslot
    exact Configuration.decode_of_fault Origin.enter_kept (Origin.allows_kept 1) hslot

/-! ### States -/

/-- A record with one field is read from an object that has it and nothing else. -/
theorem decode_singleField {α β : Type} (expected whole field : String) (decode : Decoder β)
    (make : β → α) (x : Value) :
    (singleField expected whole field decode make).decode .kept (Value.object [(field, x)]).node =
      make <$> decode .kept x.node := by
  rw [decode_object _ Origin.enter_kept]
  show (fields _ .kept .closed [] _ >>= _) = _
  rw [fields_cons (if_pos rfl) List.not_mem_nil]
  cases decode .kept x.node <;> rfl

/-- The local configuration of a diverged state is read before the other one. -/
theorem decode_divergedRecord (x y : Value) :
    State.divergedRecord.decode .kept
        (Value.object [("localConfiguration", x), ("backendConfiguration", y)]).node = (do
      let l ← Configuration.decode .kept x.node
      let b ← Configuration.decode .kept y.node
      .ok (.diverged l b)) := by
  rw [decode_object _ Origin.enter_kept]
  show (fields _ .kept .closed [] _ >>= _) = _
  rw [fields_cons rfl List.not_mem_nil, fields_cons rfl (by simp)]
  cases Configuration.decode .kept x.node with
  | error e => rfl
  | ok l => cases Configuration.decode .kept y.node <;> rfl

/-- The configurations that a state holds, in the order in which they are written. -/
def State.configurations : State → List Configuration
  | .synchronized c => [c]
  | .diverged l b => [l, b]
  | _ => []

/-- The first process that has a threshold in a configuration of a state. -/
def State.firstTimed? (s : State) : Option Pid :=
  s.configurations.findSome? Configuration.firstTimed?

/-- The content of a state is read from what was kept beside its name. -/
theorem State.decode_of_content {s : State} {content : Decoder State} {r : Except Fault State}
    {l : List (String × Value)} (hname : State.contents.lookup s.name = some content)
    (hkeys : ∀ m ∈ l, m.1 ≠ "state") (hkeep : ∀ m ∈ l, Keepable 3 m.2)
    (hread : content .kept (Value.object l).node = r) :
    State.decode (.live maxDepth) (Value.object (("state", .string s.name) :: l)).node = r := by
  have ho : (Origin.live 126).Allows 3 := Nat.le_add_left 3 123
  have htagged : State.decode (.live maxDepth)
      (Value.object (("state", .string s.name) :: l)).node = content .kept (Value.object l).node :=
    tagged_object (l := []) rfl hname hkeys fun m hm ↦ hkeep m hm _ _ ho (.refl _)
  rw [htagged, hread]

/-- **What becomes of a written state**, where all brackets may open. -/
theorem State.decode_node (s : State) :
    State.decode (.live maxDepth) s.toJson.node = readUnlessTimed s s.firstTimed? := by
  cases s with
  | uninitialized => exact State.decode_of_content rfl (by simp) (by simp) rfl
  | synchronized c =>
    refine State.decode_of_content rfl (by simp) (by simp [keepable_configuration]) ?_
    rw [decode_singleField, Configuration.decode_kept, firstTimed?, configurations,
      List.findSome?_singleton]
    cases c.firstTimed? <;> rfl
  | diverged l b =>
    refine State.decode_of_content rfl (by simp) (by simp [keepable_configuration]) ?_
    rw [decode_divergedRecord, Configuration.decode_kept, Configuration.decode_kept, firstTimed?,
      configurations, List.findSome?_cons, List.findSome?_singleton]
    cases l.firstTimed? with
    | some p => rfl
    | none => cases b.firstTimed? <;> rfl
  | error e =>
    have hcause : RemoteError.decode .kept e.toJson.node = .ok e :=
      inAnyOrder_remoteError.restores (Origin.allows_kept 1) e
    have hkeep : Keepable 3 e.toJson := (keepable_remoteError e).mono (by decide)
    refine State.decode_of_content rfl (by simp) (by simpa using hkeep) ?_
    rw [decode_singleField, hcause]
    rfl

/-- **The text of a state is read as the state unless one of its configurations has a threshold.**
Of the processes that have one, the first in the local configuration is refused, or the first in the
other configuration if there is none: where the text has its number, a number was expected. -/
theorem State.decode_text (s : State) :
    decodeText State.decode s.text = readUnlessTimed s s.firstTimed? := by
  rw [State.text, decodeText_valueText, s.decode_node]

/-- A state with one threshold is not restored from its text. -/
theorem State.not_restored_of_threshold :
    decodeText State.decode
        (State.synchronized { sendMessage := some (.ofList [(7, 8)]) }).text ≠
      .ok (State.synchronized { sendMessage := some (.ofList [(7, 8)]) }) := by
  rw [State.text, decodeText_valueText, State.decode_node]
  exact nofun

end TraceReconciler
