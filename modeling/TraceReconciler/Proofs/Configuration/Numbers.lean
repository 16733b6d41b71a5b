import Mathlib.Algebra.Group.Int.Defs
import Mathlib.Data.Set.List
import TraceReconciler.Proofs.Configuration.Listing

/-!
# The numbers of a configuration

The numbers of a configuration come from literals, and they are taken exactly or not at all. **A text
that lists literals for a configuration is one if and only if each of them is in range**, which is
said of integers in their own terms (`Configuration.ofText_of_writtenIn`): a process is at least 0
and less than 2³², a threshold or an offset at least 0 and less than 2⁶⁴. What is stored is then what
is listed, number by number (`Listing.StoredAs`). So nothing is wrapped, clamped or rounded, and no
minus is taken, not even before a zero.
-/

namespace TraceReconciler

open Json

open Text (bound32 bound64)

namespace Listing

/-! ### What is stored -/

/-- The literals in the places of processes, for a slot. -/
def pidsAt (w : Listing Literal Literal ProbeEntry) : Slot → List Literal
  | .vfsWrite => w.vfsWrite.getD []
  | .sendMessage => (w.sendMessage.getD []).map Prod.fst
  | .jniReferences => w.jniReferences.getD []
  | .sigquit => w.sigquit.getD []
  | .gc => w.gc.getD []
  | .openFiles => w.openFiles.getD []
  | .probe => w.probes.map ProbeEntry.pid

/-- The literals in the places of thresholds and of offsets. -/
def wides (w : Listing Literal Literal ProbeEntry) : List Literal :=
  (w.sendMessage.getD []).map Prod.snd ++ w.probes.map ProbeEntry.offset

/-- **A configuration stores just the numbers that are listed**: the processes of each slot, for each
process the last threshold that is given for it, and the probes. -/
structure StoredAs (w : Listing Literal Literal ProbeEntry) (c : Configuration) : Prop where
  pids : ∀ s p, p ∈ c.pids s ↔ .ofWord32 p ∈ w.pidsAt s
  thresholds : ∀ p t, (c.sendMessage.getD ∅).get? p = some t ↔ ∃ before after,
    w.sendMessage.getD [] = before ++ (.ofWord32 p, .ofWord64 t) :: after ∧
      ∀ x ∈ after, x.1 ≠ .ofWord32 p
  probes : ∀ q, q ∈ c.probes ↔ .ofProbe q ∈ w.probes

theorem mem_pidSlot_iff {slot : Option (List Pid)} {p : Pid} :
    p ∈ (slot.map SortedSet.ofList).getD ∅ ↔
      Literal.ofWord32 p ∈ (slot.map (List.map .ofWord32)).getD [] := by
  cases slot with
  | none => exact iff_of_false (SortedSet.not_mem_empty p) List.not_mem_nil
  | some l =>
    rw [Option.map_some, Option.map_some, Option.getD_some, Option.getD_some, SortedSet.mem_ofList,
      List.mem_map_of_injective Literal.ofWord32_injective]

theorem mem_entrySlot_iff {slot : Option (List (Pid × Threshold))} {p : Pid} :
    p ∈ ((slot.map SortedMap.ofList).getD ∅).keys ↔
      Literal.ofWord32 p ∈ ((slot.map (List.map (Prod.map .ofWord32 Literal.ofWord64))).getD []).map
        Prod.fst := by
  cases slot with
  | none => exact iff_of_false (SortedSet.not_mem_empty p) List.not_mem_nil
  | some l =>
    rw [Option.map_some, Option.map_some, Option.getD_some, Option.getD_some,
      SortedMap.mem_keys_ofList, List.map_map]
    simp [Prod.map, Literal.ofWord32_injective.eq_iff]

/-- The last entry for a process is the last one for its literal. -/
theorem get?_entrySlot_iff {slot : Option (List (Pid × Threshold))} {p : Pid} {t : Threshold} :
    ((slot.map SortedMap.ofList).getD ∅).get? p = some t ↔ ∃ before after,
      (slot.map (List.map (Prod.map .ofWord32 .ofWord64))).getD [] =
        before ++ (Literal.ofWord32 p, Literal.ofWord64 t) :: after ∧
      ∀ x ∈ after, x.1 ≠ .ofWord32 p := by
  cases slot with
  | none =>
    refine iff_of_false nofun ?_
    rintro ⟨before, after, h, -⟩
    exact List.append_ne_nil_of_right_ne_nil before (List.cons_ne_nil _ after) h.symm
  | some l =>
    rw [Option.map_some, Option.map_some, Option.getD_some, Option.getD_some,
      SortedMap.get?_ofList_eq_some_iff]
    constructor
    · rintro ⟨before, after, rfl, hafter⟩
      refine ⟨_, _, by rw [List.map_append, List.map_cons]; rfl, ?_⟩
      rw [List.forall_mem_map]
      exact fun x hx heq ↦ hafter x hx (Literal.ofWord32_injective heq)
    · rintro ⟨before, after, h, hafter⟩
      obtain ⟨before, rest, rfl, rfl, hrest⟩ := List.map_eq_append_iff.1 h
      obtain ⟨⟨p', t'⟩, after, rfl, heq, rfl⟩ := List.map_eq_cons_iff.1 hrest
      obtain rfl := Literal.ofWord32_injective (Prod.mk.inj heq).1
      obtain rfl := Literal.ofWord64_injective (Prod.mk.inj heq).2
      rw [List.forall_mem_map] at hafter
      exact ⟨before, after, rfl, fun x hx heq ↦ hafter x hx (congrArg Literal.ofWord32 heq)⟩

theorem mem_probes_iff {l : List Probe} {q : Probe} :
    q ∈ SortedSet.ofList l ↔ ProbeEntry.ofProbe q ∈ l.map .ofProbe := by
  rw [SortedSet.mem_ofList, List.mem_map_of_injective ProbeEntry.ofProbe_injective]

theorem storedAs_configuration (e : Listing Pid Threshold Probe) :
    e.literals.StoredAs e.configuration where
  pids s p := by
    cases s with
    | sendMessage => exact mem_entrySlot_iff
    | probe =>
      show p ∈ (SortedSet.ofList e.probes).image Probe.pid ↔
        .ofWord32 p ∈ (e.probes.map .ofProbe).map ProbeEntry.pid
      simp [SortedSet.mem_image, SortedSet.mem_ofList, ProbeEntry.ofProbe,
        Literal.ofWord32_injective.eq_iff]
    | _ => exact mem_pidSlot_iff
  thresholds p t := get?_entrySlot_iff
  probes q := mem_probes_iff

/-! ### What is in range -/

/-- **All literals are those of numbers in range.** -/
structure Fits (w : Listing Literal Literal ProbeEntry) : Prop where
  pid : ∀ s, ∀ l ∈ w.pidsAt s, l.Fits bound32
  wide : ∀ l ∈ w.wides, l.Fits bound64

theorem exists_eq_map {α β : Type} {f : α → β} {l : List β} (h : ∀ x ∈ l, ∃ a, f a = x) :
    ∃ s, l = List.map f s := by
  have hrange : l ∈ Set.range (List.map f) := by
    rw [Set.range_list_map]
    exact h
  obtain ⟨s, rfl⟩ := hrange
  exact ⟨s, rfl⟩

theorem exists_eq_map_slot {α β : Type} {f : α → β} {slot : Option (List β)}
    (h : ∀ x ∈ slot.getD [], ∃ a, f a = x) : ∃ s, slot = Option.map (List.map f) s := by
  cases slot with
  | none => exact ⟨none, rfl⟩
  | some l =>
    obtain ⟨s, rfl⟩ := exists_eq_map h
    exact ⟨some s, rfl⟩

theorem exists_of_mem_slot {α β : Type} {f : α → β} {slot : Option (List α)} {x : β}
    (h : x ∈ (slot.map (List.map f)).getD []) : ∃ a, f a = x := by
  cases slot with
  | none => exact absurd h List.not_mem_nil
  | some l =>
    obtain ⟨a, -, ha⟩ := List.mem_map.1 h
    exact ⟨a, ha⟩

/-- **Literals are in range just if they are those of some numbers.** -/
theorem fits_iff {w : Listing Literal Literal ProbeEntry} :
    w.Fits ↔ ∃ e : Listing Pid Threshold Probe, w = e.literals := by
  constructor
  · intro h
    have hpid (s : Slot) (l : Literal) (hl : l ∈ w.pidsAt s) := Literal.fits32_iff.1 (h.pid s l hl)
    have hwide (l : Literal) (hl : l ∈ w.wides) := Literal.fits64_iff.1 (h.wide l hl)
    obtain ⟨vfsWrite, sendMessage, probes, jniReferences, sigquit, gc, openFiles⟩ := w
    obtain ⟨a, rfl⟩ := exists_eq_map_slot (hpid .vfsWrite)
    obtain ⟨b, rfl⟩ : ∃ b, sendMessage =
        Option.map (List.map (Prod.map Literal.ofWord32 Literal.ofWord64)) b := by
      refine exists_eq_map_slot fun x hx ↦ ?_
      obtain ⟨p, hp⟩ := hpid .sendMessage x.1 (List.mem_map_of_mem hx)
      obtain ⟨t, ht⟩ := hwide x.2 (List.mem_append_left _ (List.mem_map_of_mem hx))
      exact ⟨(p, t), Prod.ext hp ht⟩
    obtain ⟨s, rfl⟩ : ∃ s, probes = List.map ProbeEntry.ofProbe s := by
      refine exists_eq_map fun x hx ↦ ?_
      obtain ⟨p, hp⟩ := hpid .probe x.pid (List.mem_map_of_mem hx)
      obtain ⟨k, hk⟩ := hwide x.offset (List.mem_append_right _ (List.mem_map_of_mem hx))
      exact ⟨⟨⟨x.function, x.module, k⟩, p⟩, by rw [ProbeEntry.ofProbe, hk, hp]⟩
    obtain ⟨j, rfl⟩ := exists_eq_map_slot (hpid .jniReferences)
    obtain ⟨q, rfl⟩ := exists_eq_map_slot (hpid .sigquit)
    obtain ⟨g, rfl⟩ := exists_eq_map_slot (hpid .gc)
    obtain ⟨f, rfl⟩ := exists_eq_map_slot (hpid .openFiles)
    exact ⟨⟨a, b, s, j, q, g, f⟩, rfl⟩
  · rintro ⟨e, rfl⟩
    refine ⟨fun s l hl ↦ Literal.fits32_iff.2 ?_, fun l hl ↦ Literal.fits64_iff.2 ?_⟩
    · cases s with
      | sendMessage =>
        obtain ⟨x, hx, rfl⟩ := List.mem_map.1 hl
        obtain ⟨a, rfl⟩ := exists_of_mem_slot hx
        exact ⟨a.1, rfl⟩
      | probe =>
        obtain ⟨x, hx, rfl⟩ := List.mem_map.1 hl
        obtain ⟨q, -, rfl⟩ := List.mem_map.1 hx
        exact ⟨q.pid, rfl⟩
      | _ => exact exists_of_mem_slot hl
    · rcases List.mem_append.1 hl with hl | hl
      · obtain ⟨x, hx, rfl⟩ := List.mem_map.1 hl
        obtain ⟨a, rfl⟩ := exists_of_mem_slot hx
        exact ⟨a.2, rfl⟩
      · obtain ⟨x, hx, rfl⟩ := List.mem_map.1 hl
        obtain ⟨q, -, rfl⟩ := List.mem_map.1 hx
        exact ⟨q.site.offset, rfl⟩

/-! ### Whole texts -/

namespace WrittenIn

variable {w : Listing Literal Literal ProbeEntry} {text : String} {c : Configuration}

/-- **What a text that lists literals is.** -/
theorem ofText_eq_ok_iff (h : w.WrittenIn text) : Configuration.ofText text = .ok c ↔
    ∃ e : Listing Pid Threshold Probe, w = e.literals ∧ c = e.configuration := by
  obtain ⟨n, hspelled, hw⟩ := h
  rw [Configuration.ofText, hspelled.decodeText_eq]
  exact (readsExactly_configuration 124).eq_ok_iff hspelled.skip_eq hw

theorem exists_ofText_iff (h : w.WrittenIn text) :
    (∃ c, Configuration.ofText text = .ok c) ↔ w.Fits := by
  rw [fits_iff]
  constructor
  · rintro ⟨c, hc⟩
    obtain ⟨e, he, -⟩ := h.ofText_eq_ok_iff.1 hc
    exact ⟨e, he⟩
  · rintro ⟨e, he⟩
    exact ⟨e.configuration, h.ofText_eq_ok_iff.2 ⟨e, he, rfl⟩⟩

end WrittenIn

end Listing

namespace Configuration

/-- **Numbers are taken exactly or not at all.** A text that lists literals is a configuration just
if they are the literals of numbers in range, and it is the configuration of these numbers, which
stores just them. Where all other literals are in range, the literal of an integer is taken for a
process if the integer is at least 0 and less than 2³², and for a threshold or an offset if it is at
least 0 and less than 2⁶⁴. A literal with a minus, a fraction or an exponent is never taken. -/
theorem ofText_of_writtenIn {w : Listing Literal Literal ProbeEntry} {text : String}
    (h : w.WrittenIn text) :
    (∀ c, ofText text = .ok c ↔
      ∃ e : Listing Pid Threshold Probe, w = e.literals ∧ c = e.configuration) ∧
    (∀ c, ofText text = .ok c → w.StoredAs c) ∧
    (∀ (n : Int) (s : Slot), .ofInt n ∈ w.pidsAt s →
      (∀ s, ∀ l ∈ w.pidsAt s, l = .ofInt n ∨ l.Fits bound32) → (∀ l ∈ w.wides, l.Fits bound64) →
      ((∃ c, ofText text = .ok c) ↔ 0 ≤ n ∧ n < 2 ^ 32)) ∧
    (∀ n : Int, .ofInt n ∈ w.wides → (∀ s, ∀ l ∈ w.pidsAt s, l.Fits bound32) →
      (∀ l ∈ w.wides, l = .ofInt n ∨ l.Fits bound64) →
      ((∃ c, ofText text = .ok c) ↔ 0 ≤ n ∧ n < 2 ^ 64)) ∧
    (∀ l : Literal, (∃ s, l ∈ w.pidsAt s) ∨ l ∈ w.wides → (l.numeral.negative = true ∨
      l.numeral.fraction ≠ none ∨ l.numeral.exponent ≠ none) →
      ∃ f, ofText text = .error f) := by
  refine ⟨fun c ↦ h.ofText_eq_ok_iff, fun c hc ↦ ?_, fun n s hn hpid hwide ↦ ?_,
    fun n hn hpid hwide ↦ ?_, fun l hl hsign ↦ ?_⟩
  · obtain ⟨e, rfl, rfl⟩ := h.ofText_eq_ok_iff.1 hc
    exact e.storedAs_configuration
  · have hrange : (Literal.ofInt n).Fits bound32 ↔ 0 ≤ n ∧ n < 2 ^ 32 := Literal.fits_ofInt_iff
    rw [h.exists_ofText_iff, ← hrange]
    refine ⟨fun hfits ↦ hfits.pid s _ hn, fun hfits ↦ ⟨fun s l hl ↦ ?_, hwide⟩⟩
    exact (hpid s l hl).elim (fun heq ↦ heq ▸ hfits) id
  · have hrange : (Literal.ofInt n).Fits bound64 ↔ 0 ≤ n ∧ n < 2 ^ 64 := Literal.fits_ofInt_iff
    rw [h.exists_ofText_iff, ← hrange]
    refine ⟨fun hfits ↦ hfits.wide _ hn, fun hfits ↦ ⟨hpid, fun l hl ↦ ?_⟩⟩
    exact (hwide l hl).elim (fun heq ↦ heq ▸ hfits) id
  · cases hread : ofText text with
    | error f => exact ⟨f, rfl⟩
    | ok c =>
      have hfits := h.exists_ofText_iff.1 ⟨c, hread⟩
      rcases hl with ⟨s, hl⟩ | hl
      · exact absurd (hfits.pid s l hl) (Literal.not_fits hsign)
      · exact absurd (hfits.wide l hl) (Literal.not_fits hsign)

/-- The number after the last one of 32 bits is not taken for a process, and not for another one. -/
theorem ofText_of_writtenIn_beyond :
    let gc : List Literal := [.ofInt 3, .ofInt 4294967296]
    let w : Listing Literal Literal ProbeEntry := ⟨none, none, [], none, none, some gc, none⟩
    let text := "\x7b\"gc\":[3,4294967296]\x7d"
    w.WrittenIn text ∧ .ofInt 4294967296 ∈ w.pidsAt .gc ∧
      (∀ s, ∀ l ∈ w.pidsAt s, l = .ofInt 4294967296 ∨ l.Fits bound32) ∧
      (∀ l ∈ w.wides, l.Fits bound64) ∧ ¬ ∃ c, ofText text = .ok c := by
  intro gc w text
  let items := Value.array [.nat 3, .nat 4294967296]
  let value := Value.object [("gc", items)]
  have htext : value.text = text := by decide
  have hitems : SlotPresentedBy (ListOf Literal.WrittenAs) w.gc items.node :=
    ⟨_, .cons rfl (.cons rfl .nil), rfl⟩
  have hwritten : w.WrittenIn text := by
    refine ⟨value.node, htext ▸ value.spelledIn_text, .inl ⟨_, rfl, ⟨?_, ?_, ?_⟩, ?_⟩⟩
    · simp [Value.memberNodes]
    · simpa [Value.memberNodes, Listing.expected] using hitems
    · simp [Value.memberNodes, Listing.expected, w]
    · simp [Value.memberNodes, Named]
  have hmem : Literal.ofInt 4294967296 ∈ w.pidsAt .gc := List.mem_of_getElem? (i := 1) rfl
  have hthree : (Literal.ofInt 3).Fits bound32 := Literal.fits_ofInt_iff.2 (by decide)
  have hpid : ∀ s, ∀ l ∈ w.pidsAt s, l = .ofInt 4294967296 ∨ l.Fits bound32 := by
    intro s l hl
    cases s with
    | gc =>
      obtain rfl | rfl : l = .ofInt 3 ∨ l = .ofInt 4294967296 := by
        simpa [Listing.pidsAt, w, gc] using hl
      · exact .inr hthree
      · exact .inl rfl
    | _ => exact absurd hl List.not_mem_nil
  have hwide : ∀ l ∈ w.wides, l.Fits bound64 := fun l hl ↦ absurd hl List.not_mem_nil
  refine ⟨hwritten, hmem, hpid, hwide, fun hread ↦ ?_⟩
  have hrange := ((ofText_of_writtenIn hwritten).2.2.1 _ _ hmem hpid hwide).1 hread
  exact absurd hrange (by decide)

end Configuration

end TraceReconciler
