import TraceReconciler.Proofs.Configuration.Presentation
import TraceReconciler.Proofs.Json.Literal

/-!
# What a text lists for a configuration

A text of a configuration has numbers in many places: processes in arrays, in probes and as the keys
of thresholds, and the thresholds and offsets themselves. Here such a text is taken apart with
*literals* in all these places (`Listing`, `Listing.WrittenBy`), which may have a sign, a fraction,
an exponent or any number of digits. Everything else is as a configuration wants it, in one of the
ways that are understood: members in any order and among others, slots that are `null` or missing,
and records as arrays. Every key is a name (`Json.Lists`), and the keys of thresholds are literals
without escapes (`Json.EntriesOf`).

**Of all such texts just those are read in which every literal is the canonical one of a number in
range**, each as the configuration of these numbers (`readsExactly_configuration`). The decoders of
a configuration are gone through one by one, and each is found to read exactly what it is made of.
-/

namespace TraceReconciler

open Json

variable {o o' : Origin}

/-! ### Probes -/

/-- **A probe as a text lists it**, with literals for its numbers. -/
structure ProbeEntry where
  function : String
  module : String
  offset : Literal
  pid : Literal

namespace ProbeEntry

/-- What is expected of a probe. -/
def expected (w : ProbeEntry) : List Expected :=
  [⟨"functionName", IsText w.function, False⟩, ⟨"targetModule", IsText w.module, False⟩,
    ⟨"offset", w.offset.WrittenAs, False⟩, ⟨"pid", w.pid.WrittenAs, False⟩]

/-- A probe as an object or as an array. -/
def WrittenBy (w : ProbeEntry) (n : Node) : Prop := RecordOf w.expected n

/-- A probe with the literals of its numbers. -/
def ofProbe (q : Probe) : ProbeEntry :=
  ⟨q.site.function, q.site.module, .ofWord64 q.site.offset, .ofWord32 q.pid⟩

theorem ofProbe_injective : Function.Injective ofProbe := by
  rintro ⟨⟨f, m, k⟩, p⟩ ⟨⟨f', m', k'⟩, p'⟩ h
  obtain ⟨rfl, rfl, hk, hp⟩ := ProbeEntry.mk.inj h
  obtain rfl := Literal.ofWord64_injective hk
  obtain rfl := Literal.ofWord32_injective hp
  rfl

end ProbeEntry

theorem Probe.ofItems_eq (x₀ x₁ x₂ x₃ : Node) :
    Probe.record.ofItems o [x₀, x₁, x₂, x₃] .closed = (do
      let f ← string o x₀
      let m ← string o x₁
      let k ← word64 o x₂
      let p ← word32 o x₃
      .ok (⟨⟨f, m, k⟩, p⟩, 4, [])) := rfl

/-- What is read as a probe has canonical literals. -/
theorem ProbeEntry.WrittenBy.exists_eq {w : ProbeEntry} {n : Node} {q : Probe}
    (h : w.WrittenBy n) (hskip : n.skip = .ok ()) (ho : o.enter = .ok o')
    (hread : Probe.decode o n = .ok q) : ∃ q, w = ofProbe q := by
  suffices hwords : (∃ k, w.offset = .ofWord64 k) ∧ ∃ p, w.pid = .ofWord32 p by
    obtain ⟨⟨k, hk⟩, p, hp⟩ := hwords
    exact ⟨⟨⟨w.function, w.module, k⟩, p⟩, by rw [ofProbe, ← hk, ← hp]⟩
  obtain ⟨ms, rfl, hlists⟩ | ⟨ns, rfl, hitems⟩ := h
  · have hmembers : ∀ m ∈ ms, m.2.skip = .ok () := fun m hm ↦
      (Node.skip_object_iff.1 hskip m hm).2
    rw [Probe.decode, Record.decode_members ho] at hread
    obtain ⟨vs, hvs, -⟩ := exists_of_bind_eq_ok hread
    have hoffset : ⟨"offset", w.offset.WrittenAs, False⟩ ∈ w.expected := by simp [expected]
    have hpid : ⟨"pid", w.pid.WrittenAs, False⟩ ∈ w.expected := by simp [expected]
    exact ⟨(readsExactly_word64.only_of_fields hlists hmembers hvs hoffset rfl).resolve_left id,
      (readsExactly_word32.only_of_fields hlists hmembers hvs hpid rfl).resolve_left id⟩
  · obtain _ | ⟨-, _ | ⟨-, _ | ⟨hk, _ | ⟨hp, ⟨⟩⟩⟩⟩⟩ := hitems
    obtain ⟨taken, rest, hread⟩ := Record.exists_of_decode_items ho hread
    rw [Probe.ofItems_eq] at hread
    obtain ⟨f, -, hread⟩ := exists_of_bind_eq_ok hread
    obtain ⟨m, -, hread⟩ := exists_of_bind_eq_ok hread
    obtain ⟨k, hk', hread⟩ := exists_of_bind_eq_ok hread
    obtain ⟨p, hp', -⟩ := exists_of_bind_eq_ok hread
    exact ⟨⟨k, Literal.word64_eq_ok_iff.1 (hk ▸ hk')⟩, p, Literal.word32_eq_ok_iff.1 (hp ▸ hp')⟩

/-- **A probe is read exactly.** -/
theorem readsExactly_probe (ho : o.enter = .ok o') :
    ReadsExactly Probe.decode o ProbeEntry.WrittenBy ProbeEntry.ofProbe id where
  read {q n} hskip h := by
    obtain ⟨ms, rfl, h⟩ | ⟨ns, rfl, h⟩ := h
    · have hpresented : q.PresentedBy (.object ms .closed) := ⟨ms, rfl, h.toGives⟩
      exact hpresented.decode_eq h.named hskip ho
    · obtain _ | ⟨hf, _ | ⟨hm, _ | ⟨hk, _ | ⟨hp, ⟨⟩⟩⟩⟩⟩ := h
      have hitems (x₀ x₁ x₂ x₃ : Node) (hf : IsText q.site.function x₀)
          (hm : IsText q.site.module x₁) (hk : IsNat q.site.offset.toNat x₂)
          (hp : IsNat q.pid.toNat x₃) :
          Probe.record.ofItems o' [x₀, x₁, x₂, x₃] .closed = .ok (q, 4, []) := by
        rw [Probe.ofItems_eq, hf.string_eq, hm.string_eq, hk.word64_eq, hp.word32_eq]
        rfl
      exact Record.decode_items ho (hitems _ _ _ _ hf hm hk hp)
  only hskip h hread := h.exists_eq hskip ho hread

/-! ### Slots -/

/-- **A slot is read exactly if what is in it is.** -/
theorem Json.ReadsExactly.optional {α κ ε : Type} {decode : Decoder α} {Written : κ → Node → Prop}
    {write : ε → κ} {value : ε → α} (h : ReadsExactly decode o Written write value)
    (hnull : ∀ w, ¬ Written w .null) :
    ReadsExactly (optional decode) o (SlotPresentedBy Written) (Option.map write)
      (Option.map value) where
  read {slot n} hskip hw := by
    cases slot with
    | none =>
      obtain rfl : n = .null := hw
      rfl
    | some e =>
      have hne : n ≠ .null := fun hn ↦ hnull (write e) (hn ▸ hw)
      rw [optional_of_ne_null hne, h.read hskip hw]
      rfl
  only {w n a} hskip hw hread := by
    cases w with
    | none => exact ⟨none, rfl⟩
    | some w =>
      have hne : n ≠ .null := fun hn ↦ hnull w (hn ▸ hw)
      rw [optional_of_ne_null hne] at hread
      obtain ⟨a, ha, -⟩ := exists_of_map_eq_ok hread
      obtain ⟨e, rfl⟩ := h.only hskip hw ha
      exact ⟨some e, rfl⟩

theorem readsExactly_pidSet (ho : o.enter = .ok o') :
    ReadsExactly PidSet.decode o (ListOf Literal.WrittenAs) (List.map .ofWord32)
      SortedSet.ofList := by
  have h := (readsExactly_word32.list ho).map SortedSet.ofList
  rwa [List.map_id_fun, Function.comp_id] at h

theorem readsExactly_pidSlot (ho : o.enter = .ok o') :
    ReadsExactly (optional PidSet.decode) o (SlotPresentedBy (ListOf Literal.WrittenAs))
      (Option.map (List.map .ofWord32)) (Option.map SortedSet.ofList) := by
  refine (readsExactly_pidSet ho).optional ?_
  rintro w ⟨ns, -, ⟨⟩⟩

theorem readsExactly_thresholdSlot (room : Nat) :
    ReadsExactly (optional decodeThresholds) (.live (room + 1)) (SlotPresentedBy EntriesOf)
      (Option.map (List.map (Prod.map .ofWord32 .ofWord64))) (Option.map SortedMap.ofList) := by
  refine ReadsExactly.optional ?_ ?_
  · exact (readsExactly_wordMap room).map SortedMap.ofList
  · rintro w ⟨⟩

theorem readsExactly_probeSet {o'' : Origin} (ho : o.enter = .ok o') (ho' : o'.enter = .ok o'') :
    ReadsExactly ProbeSet.decode o (ListOf ProbeEntry.WrittenBy) (List.map .ofProbe)
      SortedSet.ofList := by
  have h := ((readsExactly_probe ho').list ho).map SortedSet.ofList
  rwa [List.map_id_fun, Function.comp_id] at h

/-! ### Configurations -/

/-- **What a text lists for a configuration**: processes, thresholds and probes, of some kinds each.
They are literals where it is about the text, and numbers where it is about what is stored. -/
structure Listing (π τ ρ : Type) where
  vfsWrite : Option (List π)
  sendMessage : Option (List (π × τ))
  probes : List ρ
  jniReferences : Option (List π)
  sigquit : Option (List π)
  gc : Option (List π)
  openFiles : Option (List π)

namespace Listing

/-- What is expected of a configuration. -/
def expected (w : Listing Literal Literal ProbeEntry) : List Expected :=
  [⟨"vfsWrite", SlotPresentedBy (ListOf Literal.WrittenAs) w.vfsWrite, w.vfsWrite = none⟩,
    ⟨"sysSendmsg", SlotPresentedBy EntriesOf w.sendMessage, w.sendMessage = none⟩,
    ⟨"uprobes", ListOf ProbeEntry.WrittenBy w.probes, w.probes = []⟩,
    ⟨"jniReferences", SlotPresentedBy (ListOf Literal.WrittenAs) w.jniReferences,
      w.jniReferences = none⟩,
    ⟨"sysSigquit", SlotPresentedBy (ListOf Literal.WrittenAs) w.sigquit, w.sigquit = none⟩,
    ⟨"gc", SlotPresentedBy (ListOf Literal.WrittenAs) w.gc, w.gc = none⟩,
    ⟨"sysFdTracking", SlotPresentedBy (ListOf Literal.WrittenAs) w.openFiles, w.openFiles = none⟩]

/-- **A configuration as an object or as an array.** -/
def WrittenBy (w : Listing Literal Literal ProbeEntry) (n : Node) : Prop := RecordOf w.expected n

/-- **A text lists these literals for a configuration.** -/
def WrittenIn (w : Listing Literal Literal ProbeEntry) (text : String) : Prop :=
  ∃ n, SpelledIn text n ∧ w.WrittenBy n

/-- The literals of what is listed. -/
def literals (e : Listing Pid Threshold Probe) : Listing Literal Literal ProbeEntry where
  vfsWrite := e.vfsWrite.map (List.map .ofWord32)
  sendMessage := e.sendMessage.map (List.map (Prod.map .ofWord32 .ofWord64))
  probes := e.probes.map .ofProbe
  jniReferences := e.jniReferences.map (List.map .ofWord32)
  sigquit := e.sigquit.map (List.map .ofWord32)
  gc := e.gc.map (List.map .ofWord32)
  openFiles := e.openFiles.map (List.map .ofWord32)

/-- **The configuration of what is listed.** Of two thresholds for a process the last one counts. -/
def configuration (e : Listing Pid Threshold Probe) : Configuration where
  vfsWrite := e.vfsWrite.map SortedSet.ofList
  sendMessage := e.sendMessage.map SortedMap.ofList
  probes := SortedSet.ofList e.probes
  jniReferences := e.jniReferences.map SortedSet.ofList
  sigquit := e.sigquit.map SortedSet.ofList
  gc := e.gc.map SortedSet.ofList
  openFiles := e.openFiles.map SortedSet.ofList

/-- The members of a configuration with the fields that they are read as. -/
def table (e : Listing Pid Threshold Probe) : List (Expected × ConfigurationField) :=
  e.literals.expected.zip [.vfsWrite e.configuration.vfsWrite,
    .sendMessage e.configuration.sendMessage, .probes e.configuration.probes,
    .jniReferences e.configuration.jniReferences, .sigquit e.configuration.sigquit,
    .gc e.configuration.gc, .openFiles e.configuration.openFiles]

variable (e : Listing Pid Threshold Probe)

theorem meets_of_mem_table (room : Nat) :
    ∀ x ∈ e.table, Meets ConfigurationField.named? (.live (room + 2)) x.1 x.2 := by
  have hpids := readsExactly_pidSlot (o := .live (room + 2)) rfl
  simp only [table, expected, List.zip_cons_cons, List.zip_nil_right, List.forall_mem_cons]
  refine ⟨.of_decode rfl fun _ ↦ hpids.read,
    .of_decode rfl fun _ ↦ (readsExactly_thresholdSlot (room + 1)).read,
    .of_decode rfl fun _ ↦ (readsExactly_probeSet rfl rfl).read,
    .of_decode rfl fun _ ↦ hpids.read, .of_decode rfl fun _ ↦ hpids.read,
    .of_decode rfl fun _ ↦ hpids.read, .of_decode rfl fun _ ↦ hpids.read,
    fun _ hx ↦ absurd hx List.not_mem_nil⟩

/-- An object is read as what it lists. -/
theorem ofMembers_eq {room : Nat} {ms : List (StringToken × Node)}
    (h : Lists e.literals.expected ms) (hskip : ∀ m ∈ ms, m.2.skip = .ok ()) :
    Configuration.record.ofMembers (.live (room + 2)) ms .closed = .ok e.configuration := by
  have hlists : Lists (e.table.map Prod.fst) ms := h
  obtain ⟨vs, hvs, hfound⟩ := hlists.exists_fields_eq hskip (e.meets_of_mem_table room)
    fun _ ↦ Configuration.named?_eq_none rfl
  have hprobes : e.literals.probes = [] → e.configuration.probes = ∅ := fun hnil ↦ by
    rw [configuration, List.map_eq_nil_iff.1 hnil]
    rfl
  have hfields : Configuration.ofFields vs = e.configuration := by
    refine Configuration.ofFields_of_found hfound ?_ ?_ hprobes ?_ ?_ ?_ ?_
    all_goals simp [literals, configuration]
  show (fields ConfigurationField.named? (.live (room + 2)) .closed [] ms >>= _) = _
  rw [hvs, ← hfields]
  rfl

end Listing

theorem Configuration.ofItems_eq (x₀ x₁ x₂ x₃ x₄ x₅ x₆ : Node) :
    Configuration.record.ofItems o [x₀, x₁, x₂, x₃, x₄, x₅, x₆] .closed = (do
      let vfsWrite ← optional PidSet.decode o x₀
      let sendMessage ← optional decodeThresholds o x₁
      let probes ← ProbeSet.decode o x₂
      let jniReferences ← optional PidSet.decode o x₃
      let sigquit ← optional PidSet.decode o x₄
      let gc ← optional PidSet.decode o x₅
      let openFiles ← optional PidSet.decode o x₆
      .ok ({ vfsWrite, sendMessage, probes, jniReferences, sigquit, gc, openFiles }, 7, [])) := by
  simp only [record, takeItem, bind, Except.bind]

namespace Listing

/-- An array is read as what it lists. -/
theorem ofItems_eq {room : Nat} {ns : List Node} (e : Listing Pid Threshold Probe)
    (h : List.Forall₂ Expected.Accepts e.literals.expected ns) (hskip : ∀ n ∈ ns, n.skip = .ok ()) :
    Configuration.record.ofItems (.live (room + 2)) ns .closed = .ok (e.configuration, 7, []) := by
  obtain _ | ⟨h₀, _ | ⟨h₁, _ | ⟨h₂, _ | ⟨h₃, _ | ⟨h₄, _ | ⟨h₅, _ | ⟨h₆, ⟨⟩⟩⟩⟩⟩⟩⟩⟩ := h
  simp only [List.forall_mem_cons] at hskip
  obtain ⟨s₀, s₁, s₂, s₃, s₄, s₅, s₆, -⟩ := hskip
  have hpids := readsExactly_pidSlot (o := .live (room + 2)) rfl
  have hthresholds := readsExactly_thresholdSlot (room + 1)
  have hprobes := readsExactly_probeSet (o := .live (room + 2)) rfl rfl
  rw [Configuration.ofItems_eq, hpids.read s₀ h₀, hthresholds.read s₁ h₁, hprobes.read s₂ h₂,
    hpids.read s₃ h₃, hpids.read s₄ h₄, hpids.read s₅ h₅, hpids.read s₆ h₆]
  rfl

/-- What is listed is read, in whichever form. -/
theorem decode_eq {room : Nat} {n : Node} (e : Listing Pid Threshold Probe) (hskip : n.skip = .ok ())
    (h : e.literals.WrittenBy n) :
    Configuration.decode (.live (room + 3)) n = .ok e.configuration := by
  have ho : (Origin.live (room + 3)).enter = .ok (.live (room + 2)) := rfl
  obtain ⟨ms, rfl, h⟩ | ⟨ns, rfl, h⟩ := h
  · rw [Configuration.decode, Record.decode_members ho]
    exact e.ofMembers_eq h fun m hm ↦ (Node.skip_object_iff.1 hskip m hm).2
  · exact Record.decode_items ho (e.ofItems_eq h (Node.skip_array_iff.1 hskip))

theorem exists_eq_map_of_none_or {ε κ : Type} {slot : Option κ} {f : ε → κ}
    (h : slot = none ∨ ∃ s, slot = Option.map f s) : ∃ s, slot = Option.map f s :=
  h.elim (fun hnone ↦ ⟨none, hnone⟩) id

/-- What is read of an object has canonical literals. -/
theorem exists_eq_of_ofMembers {w : Listing Literal Literal ProbeEntry} {room : Nat}
    {ms : List (StringToken × Node)} {c : Configuration} (h : Lists w.expected ms)
    (hskip : ∀ m ∈ ms, m.2.skip = .ok ())
    (hread : Configuration.record.ofMembers (.live (room + 2)) ms .closed = .ok c) :
    ∃ e : Listing Pid Threshold Probe, w = e.literals := by
  have hpids := readsExactly_pidSlot (o := .live (room + 2)) rfl
  have hthresholds := readsExactly_thresholdSlot (room + 1)
  have hprobes := readsExactly_probeSet (o := .live (room + 2)) rfl rfl
  obtain ⟨vs, hvs, -⟩ := exists_of_bind_eq_ok hread
  obtain ⟨vfsWrite, sendMessage, probes, jniReferences, sigquit, gc, openFiles⟩ := w
  obtain ⟨a, rfl⟩ := exists_eq_map_of_none_or
    (hpids.only_of_fields h hskip hvs (List.mem_of_getElem? (i := 0) rfl) rfl)
  obtain ⟨b, rfl⟩ := exists_eq_map_of_none_or
    (hthresholds.only_of_fields h hskip hvs (List.mem_of_getElem? (i := 1) rfl) rfl)
  obtain ⟨s, rfl⟩ : ∃ s, probes = List.map .ofProbe s :=
    (hprobes.only_of_fields h hskip hvs (List.mem_of_getElem? (i := 2) rfl) rfl).elim
      (fun hnil ↦ ⟨[], hnil⟩) id
  obtain ⟨j, rfl⟩ := exists_eq_map_of_none_or
    (hpids.only_of_fields h hskip hvs (List.mem_of_getElem? (i := 3) rfl) rfl)
  obtain ⟨q, rfl⟩ := exists_eq_map_of_none_or
    (hpids.only_of_fields h hskip hvs (List.mem_of_getElem? (i := 4) rfl) rfl)
  obtain ⟨g, rfl⟩ := exists_eq_map_of_none_or
    (hpids.only_of_fields h hskip hvs (List.mem_of_getElem? (i := 5) rfl) rfl)
  obtain ⟨f, rfl⟩ := exists_eq_map_of_none_or
    (hpids.only_of_fields h hskip hvs (List.mem_of_getElem? (i := 6) rfl) rfl)
  exact ⟨⟨a, b, s, j, q, g, f⟩, rfl⟩

/-- What is read of an array has canonical literals. -/
theorem exists_eq_of_ofItems {w : Listing Literal Literal ProbeEntry} {room taken : Nat}
    {ns rest : List Node} {c : Configuration} (h : List.Forall₂ Expected.Accepts w.expected ns)
    (hskip : ∀ n ∈ ns, n.skip = .ok ())
    (hread : Configuration.record.ofItems (.live (room + 2)) ns .closed = .ok (c, taken, rest)) :
    ∃ e : Listing Pid Threshold Probe, w = e.literals := by
  have hpids := readsExactly_pidSlot (o := .live (room + 2)) rfl
  have hthresholds := readsExactly_thresholdSlot (room + 1)
  have hprobes := readsExactly_probeSet (o := .live (room + 2)) rfl rfl
  obtain _ | ⟨h₀, _ | ⟨h₁, _ | ⟨h₂, _ | ⟨h₃, _ | ⟨h₄, _ | ⟨h₅, _ | ⟨h₆, ⟨⟩⟩⟩⟩⟩⟩⟩⟩ := h
  simp only [List.forall_mem_cons] at hskip
  obtain ⟨s₀, s₁, s₂, s₃, s₄, s₅, s₆, -⟩ := hskip
  rw [Configuration.ofItems_eq] at hread
  obtain ⟨_, r₀, hread⟩ := exists_of_bind_eq_ok hread
  obtain ⟨_, r₁, hread⟩ := exists_of_bind_eq_ok hread
  obtain ⟨_, r₂, hread⟩ := exists_of_bind_eq_ok hread
  obtain ⟨_, r₃, hread⟩ := exists_of_bind_eq_ok hread
  obtain ⟨_, r₄, hread⟩ := exists_of_bind_eq_ok hread
  obtain ⟨_, r₅, hread⟩ := exists_of_bind_eq_ok hread
  obtain ⟨_, r₆, -⟩ := exists_of_bind_eq_ok hread
  obtain ⟨vfsWrite, sendMessage, probes, jniReferences, sigquit, gc, openFiles⟩ := w
  obtain ⟨a, rfl⟩ := hpids.only s₀ h₀ r₀
  obtain ⟨b, rfl⟩ := hthresholds.only s₁ h₁ r₁
  obtain ⟨s, rfl⟩ := hprobes.only s₂ h₂ r₂
  obtain ⟨j, rfl⟩ := hpids.only s₃ h₃ r₃
  obtain ⟨q, rfl⟩ := hpids.only s₄ h₄ r₄
  obtain ⟨g, rfl⟩ := hpids.only s₅ h₅ r₅
  obtain ⟨f, rfl⟩ := hpids.only s₆ h₆ r₆
  exact ⟨⟨a, b, s, j, q, g, f⟩, rfl⟩

/-- **What is read as a configuration has canonical literals** of numbers in range. -/
theorem WrittenBy.exists_eq {w : Listing Literal Literal ProbeEntry} {room : Nat} {n : Node}
    {c : Configuration} (hskip : n.skip = .ok ()) (h : w.WrittenBy n)
    (hread : Configuration.decode (.live (room + 3)) n = .ok c) :
    ∃ e : Listing Pid Threshold Probe, w = e.literals := by
  have ho : (Origin.live (room + 3)).enter = .ok (.live (room + 2)) := rfl
  obtain ⟨ms, rfl, h⟩ | ⟨ns, rfl, h⟩ := h
  · rw [Configuration.decode, Record.decode_members ho] at hread
    exact exists_eq_of_ofMembers h (fun m hm ↦ (Node.skip_object_iff.1 hskip m hm).2) hread
  · obtain ⟨taken, rest, hread⟩ := Record.exists_of_decode_items ho hread
    exact exists_eq_of_ofItems h (Node.skip_array_iff.1 hskip) hread

end Listing

/-- **A configuration is read exactly**: from just those texts in which every literal is the
canonical one of a number in range, and as the configuration of these numbers. -/
theorem readsExactly_configuration (room : Nat) :
    ReadsExactly Configuration.decode (.live (room + 3)) Listing.WrittenBy Listing.literals
      Listing.configuration where
  read {e _} hskip h := e.decode_eq hskip h
  only hskip h hread := h.exists_eq hskip hread

end TraceReconciler
