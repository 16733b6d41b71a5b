import Mathlib.Data.Prod.Lex
import Mathlib.Tactic.TFAE
import TraceReconciler.Proofs.Configuration.Entries
import TraceReconciler.Proofs.Configuration.RoundTrip

/-!
# One text for each content

Two configurations may have come about in different ways: read from texts that list the same
processes in different orders, or changed one step at a time. What counts is what they contain, that
is, which slots are absent, which processes and probes are in the others, and which threshold each
process has (`Configuration.SameContent`).

**Equality, content and text are the same thing.** Sets and maps are kept in order and without
repetitions, so configurations with the same content are equal; and the text of a configuration is
read as it, so no two share a text (`Configuration.text_injective`). The statements are about all
configurations there are: each of them is read from its own text.

The order in which sets and maps are kept shows in the text: processes ascend as numbers, not as the
digits that they are written by, and probes by function, module, offset and process
(`Configuration.exists_ascendingTree`).
-/

namespace TraceReconciler

open Json

/-! ### The orders in plain terms -/

theorem listPrecedes_iff_lt {l m : List Char} : SortKey.ListPrecedes l m ↔ l < m := by
  induction l generalizing m with
  | nil =>
    cases m with
    | nil => simp [SortKey.ListPrecedes]
    | cons b m => simp [SortKey.ListPrecedes]
  | cons a l ih =>
    cases m with
    | nil => simp [SortKey.ListPrecedes]
    | cons b m =>
      rw [SortKey.ListPrecedes, ih, List.cons_lt_cons_iff]
      rfl

theorem precedes_string_iff {s t : String} : SortKey.Precedes s t ↔ s < t :=
  listPrecedes_iff_lt

/-- What a probe is written by, in the order of its members. -/
def Probe.tuple (p : Probe) : String ×ₗ String ×ₗ Nat ×ₗ Nat :=
  toLex (p.site.function, toLex (p.site.module, toLex (p.site.offset.toNat, p.pid.toNat)))

/-- **Probes are ordered by function, then module, then offset, then process.** -/
theorem Probe.precedes_iff {p q : Probe} : SortKey.Precedes p q ↔ p.tuple < q.tuple := by
  obtain ⟨⟨f, m, k⟩, i⟩ := p
  obtain ⟨⟨f', m', k'⟩, i'⟩ := q
  have hparts : SortKey.Precedes (⟨⟨f, m, k⟩, i⟩ : Probe) ⟨⟨f', m', k'⟩, i'⟩ ↔
      (SortKey.Precedes f f' ∨ f = f' ∧ (SortKey.Precedes m m' ∨ m = m' ∧ k.toNat < k'.toNat)) ∨
        (⟨f, m, k⟩ : Site) = ⟨f', m', k'⟩ ∧ i.toNat < i'.toNat := Iff.rfl
  simp only [tuple, Prod.Lex.toLex_lt_toLex, hparts, precedes_string_iff, Site.mk.injEq,
    UInt64.toNat_inj, and_or_left, or_assoc, and_assoc]

/-! ### The same content -/

namespace Configuration

variable {a b : Configuration}

/-- **Two configurations contain the same.** -/
structure SameContent (a b : Configuration) : Prop where
  /-- The same slots are absent, -/
  absent : ∀ s, (a.content s).isAbsent = (b.content s).isAbsent
  /-- the same processes are in the slots that hold a set of them, -/
  pids : ∀ s, s ≠ .sendMessage → s ≠ .probe → ∀ p, p ∈ a.pids s ↔ p ∈ b.pids s
  /-- each process has the same threshold, or none in both, -/
  threshold : ∀ p, (a.sendMessage.getD ∅).get? p = (b.sendMessage.getD ∅).get? p
  /-- and the same probes are there. -/
  probe : ∀ x, x ∈ a.probes ↔ x ∈ b.probes

/-- **Configurations with the same content are equal**, however they have come about. -/
theorem SameContent.eq (h : a.SameContent b) : a = b := by
  refine eq_of_mark? (fun t p ↦ ?_) h.absent
  cases t with
  | site s => simp only [mark?, SortedSet.mark?, h.probe]
  | slot s =>
    have hpids := h.pids s
    cases s with
    | sendMessage => simp only [mark?, content, Content.mark?, h.threshold]
    | probe => rfl
    | _ =>
      have hmem := hpids (by decide) (by decide) p
      simp only [Configuration.pids] at hmem
      simp only [mark?, content, Content.mark?, SortedSet.mark?, hmem]

/-- **No two configurations share a text.** -/
theorem text_injective : Function.Injective text := by
  intro a b h
  have hread := a.ofText_text
  rw [h, b.ofText_text] at hread
  exact (Except.ok.inj hread).symm

/-! ### The order in a text -/

/-- An array of numbers that ascend. -/
def AscendingNumbers (n : Node) : Prop :=
  ∃ l : List Nat, n = (Value.array (l.map .nat)).node ∧ l.Pairwise (· < ·)

/-- An object of numbers under numbers that ascend. -/
def AscendingKeys (n : Node) : Prop :=
  ∃ l : List (Nat × Nat), l.Pairwise (·.1 < ·.1) ∧
    n = (Value.object (l.map fun e ↦ (String.ofList (Text.digits e.1), .nat e.2))).node

/-- An array of probes that ascend by what they are written by. -/
def AscendingProbes (n : Node) : Prop :=
  ∃ l : List Probe, n = (Value.array (l.map Probe.toJson)).node ∧ l.Pairwise (·.tuple < ·.tuple)

/-- **The tree of a configuration with its parts in order.** -/
def AscendingTree (n : Node) : Prop :=
  ∃ vfsWrite sendMessage probes jniReferences sigquit gc openFiles : Node,
    n = .object [(.ofString "vfsWrite", vfsWrite), (.ofString "sysSendmsg", sendMessage),
      (.ofString "uprobes", probes), (.ofString "jniReferences", jniReferences),
      (.ofString "sysSigquit", sigquit), (.ofString "gc", gc),
      (.ofString "sysFdTracking", openFiles)] .closed ∧
    (∀ slot ∈ [vfsWrite, jniReferences, sigquit, gc, openFiles],
      slot = .null ∨ AscendingNumbers slot) ∧
    (sendMessage = .null ∨ AscendingKeys sendMessage) ∧ AscendingProbes probes

theorem ascendingNumbers_toJson (s : PidSet) : AscendingNumbers (PidSet.toJson s).node := by
  refine ⟨s.toList.map UInt32.toNat, ?_, List.pairwise_map.2 s.sorted⟩
  rw [PidSet.toJson, List.map_map]
  rfl

theorem ascendingKeys_toJson (m : PidMap Threshold) : AscendingKeys (thresholdsToJson m).node := by
  refine ⟨m.entries.map fun e ↦ (e.1.toNat, e.2.toNat), List.pairwise_map.2 m.sorted, ?_⟩
  rw [thresholdsToJson, List.map_map]
  rfl

theorem ascendingProbes_toJson (s : ProbeSet) : AscendingProbes (ProbeSet.toJson s).node :=
  ⟨s.toList, rfl, s.sorted.imp Probe.precedes_iff.1⟩

/-- What is in a slot is in order if there is anything. -/
theorem null_or_absentOr {α : Type} {write : α → Value} {P : Node → Prop}
    (h : ∀ a, P (write a).node) (slot : Option α) :
    (absentOr write slot).node = .null ∨ P (absentOr write slot).node := by
  cases slot with
  | none => exact .inl rfl
  | some a => exact .inr (h a)

/-- **The text of a configuration spells a tree in order.** -/
theorem exists_ascendingTree (c : Configuration) :
    ∃ n, Spells c.text.toList n ∧ AscendingTree n := by
  have hpids := null_or_absentOr ascendingNumbers_toJson
  have hspells : Spells c.text.toList c.toJson.node := by
    rw [text, Value.text, String.toList_ofList]
    exact c.toJson.spells_compact
  refine ⟨c.toJson.node, hspells, (absentOr PidSet.toJson c.vfsWrite).node,
    (absentOr thresholdsToJson c.sendMessage).node, (ProbeSet.toJson c.probes).node,
    (absentOr PidSet.toJson c.jniReferences).node, (absentOr PidSet.toJson c.sigquit).node,
    (absentOr PidSet.toJson c.gc).node, (absentOr PidSet.toJson c.openFiles).node, rfl, ?_,
    null_or_absentOr ascendingKeys_toJson c.sendMessage, ascendingProbes_toJson c.probes⟩
  simp only [List.forall_mem_cons]
  exact ⟨hpids _, hpids _, hpids _, hpids _, hpids _, fun _ hslot ↦ absurd hslot List.not_mem_nil⟩

/-- **Equality, text and content of configurations are the same thing**, and each text is in
order. -/
theorem eq_text_content_tfae (a b : Configuration) :
    [a = b, a.text = b.text, a.SameContent b].TFAE ∧
      (∃ n, Spells a.text.toList n ∧ AscendingTree n) ∧
      ∃ n, Spells b.text.toList n ∧ AscendingTree n := by
  refine ⟨?_, a.exists_ascendingTree, b.exists_ascendingTree⟩
  tfae_have 1 → 2 := congrArg text
  tfae_have 2 → 1 := fun h ↦ text_injective h
  tfae_have 1 → 3 := by
    rintro rfl
    exact ⟨fun _ ↦ rfl, fun _ _ _ _ ↦ Iff.rfl, fun _ ↦ rfl, fun _ ↦ Iff.rfl⟩
  tfae_have 3 → 1 := SameContent.eq
  tfae_finish

/-- Processes ascend as numbers, although their digits do not. -/
example : (thresholdsToJson (.ofList [(10, 5), (9, 6)])).compact =
    "\x7b\"9\":6,\"10\":5\x7d".toList := by
  decide

end Configuration

end TraceReconciler
