import Mathlib.Data.List.Nodup
import TraceReconciler.Proofs.Configuration.Canonical
import TraceReconciler.Proofs.Text.OctetOrder

/-!
# The order of probes

A set of probes is kept in order, so that it has one written form. For that the order must be total,
and it must tell any two probes apart: probes of the same function in the same module at the same
offset are different probes if they are in different processes.

* `SortKey.exactlyOne` says it of all keys: of two keys, either they are the same or one precedes
  the other, and only one of the three holds.
* `Probe.precedes_iff_octetTuple` says what the order is: by the octets of the function, then by
  those of the module, then by the offset, then by the process. It makes no difference whether
  octets or code points are compared.
* `SortedSet.foldl_insert_eq` says what it is for: **inserting loses nothing but order and
  repetitions**, so the list that comes out depends only on which probes went in.
-/

namespace TraceReconciler

open SortKey Text

/-- Exactly one of three holds. -/
def ExactlyOne (p q r : Prop) : Prop := (p ∧ ¬ q ∧ ¬ r) ∨ (¬ p ∧ q ∧ ¬ r) ∨ (¬ p ∧ ¬ q ∧ r)

/-- **Two keys are the same, or one of them precedes the other.** -/
theorem SortKey.exactlyOne {α : Type} [SortKey α] (a b : α) :
    ExactlyOne (Precedes a b) (a = b) (Precedes b a) := by
  by_cases hab : Precedes a b
  · exact .inl ⟨hab, ne_of_precedes hab, asymm hab⟩
  · by_cases hba : Precedes b a
    · exact .inr (.inr ⟨hab, (ne_of_precedes hba).symm, hba⟩)
    · exact .inr (.inl ⟨hab, eq_of_not hab hba, hba⟩)

/-! ### Inserting one after another -/

namespace SortedSet

variable {α : Type} [SortKey α] {s : SortedSet α} {l m : List α}

theorem mem_foldl_insert {x : α} : x ∈ l.foldl insert s ↔ x ∈ s ∨ x ∈ l := by
  induction l generalizing s with
  | nil => simp
  | cons a l ih =>
    rw [List.foldl_cons, ih, mem_insert, List.mem_cons, or_assoc]
    exact or_left_comm

/-- **A set does not remember in which order its members were inserted**, nor how often. -/
theorem foldl_insert_eq (h : ∀ x, x ∈ l ↔ x ∈ m) : l.foldl insert s = m.foldl insert s :=
  ext_mem fun x ↦ by rw [mem_foldl_insert, mem_foldl_insert, h x]

theorem insertAll_eq_foldl_insert (s : SortedSet α) (l : List α) :
    s.insertAll l = l.foldl insert s :=
  ext_mem fun x ↦ by rw [mem_insertAll, mem_foldl_insert]

theorem count_toList [DecidableEq α] (s : SortedSet α) (x : α) :
    s.toList.count x = if x ∈ s then 1 else 0 :=
  s.nodup.count

end SortedSet

/-! ### The parts that probes are compared by -/

namespace Probe

/-- What a probe is written by, in the order of its members and with texts in octets. -/
def octetTuple (p : Probe) : List UInt8 ×ₗ List UInt8 ×ₗ Nat ×ₗ Nat :=
  toLex (octets p.site.function,
    toLex (octets p.site.module, toLex (p.site.offset.toNat, p.pid.toNat)))

/-- **Probes are ordered by the octets of their texts, then by their numbers.** -/
theorem precedes_iff_octetTuple {p q : Probe} : Precedes p q ↔ p.octetTuple < q.octetTuple := by
  rw [precedes_iff]
  simp only [tuple, octetTuple, Prod.Lex.toLex_lt_toLex, octets_lt_iff, octets_inj]

/-- **The order of probes is total and tells any two probes apart**, and it is the order of their
parts, where texts may be compared by octets or by code points. So a set of probes into which some
have been inserted lists each of them once and in order, in whatever order they came. -/
theorem order_strict_total :
    (∀ x y z : Probe, ExactlyOne (Precedes x y) (x = y) (Precedes y x) ∧
      (Precedes x y → Precedes y z → Precedes x z) ∧
      (¬ Precedes x y → ¬ Precedes y x → x.site.function = y.site.function ∧
        x.site.module = y.site.module ∧ x.site.offset = y.site.offset ∧ x.pid = y.pid)) ∧
    (∀ x y : Probe, Precedes x y ↔ x.octetTuple < y.octetTuple) ∧
    (∀ s t : String, octets s < octets t ↔ codePoints s < codePoints t) ∧
    ∀ (s : ProbeSet) (l : List Probe), let listed := l.foldl SortedSet.insert s
      (∀ m : List Probe, (∀ x, x ∈ l ↔ x ∈ m) →
        (m.foldl SortedSet.insert s).toList = listed.toList) ∧
      s.insertAll l = listed ∧ listed.toList.Pairwise (·.octetTuple < ·.octetTuple) ∧
      ∀ x, listed.toList.count x = if x ∈ s ∨ x ∈ l then 1 else 0 := by
  refine ⟨fun x y z ↦ ⟨exactlyOne x y, SortKey.trans, fun hxy hyx ↦ ?_⟩,
    fun _ _ ↦ precedes_iff_octetTuple, fun _ _ ↦ octets_lt_iff.trans codePoints_lt_iff.symm,
    fun s l ↦ ⟨fun m hm ↦ ?_, s.insertAll_eq_foldl_insert l, ?_, fun x ↦ ?_⟩⟩
  · obtain rfl := eq_of_not hxy hyx
    exact ⟨rfl, rfl, rfl, rfl⟩
  · rw [SortedSet.foldl_insert_eq hm]
  · exact (SortedSet.sorted _).imp precedes_iff_octetTuple.1
  · simp only [SortedSet.count_toList, SortedSet.mem_foldl_insert]

/-- Probes whose functions differ in a character beyond U+FFFF, or not at all, inserted backwards
and one of them twice. -/
theorem order_strict_total_beyond :
    let x : Probe := ⟨⟨"\uffff", "m", 9⟩, 3⟩
    let y : Probe := ⟨⟨"😀", "m", 0⟩, 1⟩
    let z : Probe := ⟨⟨"😀", "m", 0⟩, 2⟩
    (Precedes x y ∧ Precedes y z ∧ Precedes x z) ∧ ¬ Precedes y y ∧
      (∀ p, p ∈ [x, y, z] ↔ p ∈ [z, y, x, y]) ∧
      (List.foldl SortedSet.insert (∅ : ProbeSet) [z, y, x, y]).toList =
        (List.foldl SortedSet.insert (∅ : ProbeSet) [x, y, z]).toList := by
  intro x y z
  have hxy : Precedes x y := by decide
  have hyz : Precedes y z := by decide
  have hmem : ∀ p, p ∈ [x, y, z] ↔ p ∈ [z, y, x, y] := fun p ↦ by
    simp only [List.mem_cons, List.not_mem_nil, or_false]
    tauto
  obtain ⟨horder, -, -, hinsert⟩ := order_strict_total
  exact ⟨⟨hxy, hyz, (horder x y z).2.1 hxy hyz⟩, by decide, hmem, (hinsert ∅ [x, y, z]).1 _ hmem⟩

end Probe

end TraceReconciler
