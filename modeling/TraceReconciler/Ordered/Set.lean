import TraceReconciler.Ordered.Key

/-!
# Sorted sets

A finite set kept as its ascending list of members. The order and the absence of repetitions are
part of the type, so **two sets with the same members are the same value** (`SortedSet.ext_mem`) and
a set has one written form.

Every operation is pinned down by what it does to membership: `mem_insert`, `mem_ofList`,
`mem_union`, `mem_diff`.
-/

namespace TraceReconciler

open SortKey

/-- A finite set, kept as the strictly ascending list of its members. -/
structure SortedSet (α : Type) [SortKey α] where
  /-- The members, in order. -/
  toList : List α
  /-- Each member precedes all later ones. -/
  sorted : toList.Pairwise Precedes

namespace SortedSet

variable {α : Type} [SortKey α]

theorem toList_inj {s t : SortedSet α} (h : s.toList = t.toList) : s = t := by
  cases s
  cases t
  cases h
  rfl

instance [DecidableEq α] : DecidableEq (SortedSet α) := fun s t ↦
  decidable_of_iff (s.toList = t.toList) ⟨toList_inj, fun h ↦ h ▸ rfl⟩

instance : Membership α (SortedSet α) where
  mem s a := a ∈ s.toList

theorem mem_toList {s : SortedSet α} {a : α} : a ∈ s.toList ↔ a ∈ s := Iff.rfl

instance [DecidableEq α] (a : α) (s : SortedSet α) : Decidable (a ∈ s) :=
  inferInstanceAs (Decidable (a ∈ s.toList))

instance {s : SortedSet α} {P : α → Prop} [DecidablePred P] : Decidable (∀ a ∈ s, P a) :=
  inferInstanceAs (Decidable (∀ a ∈ s.toList, P a))

/-- The set without members. -/
def empty : SortedSet α := ⟨[], List.Pairwise.nil⟩

instance : EmptyCollection (SortedSet α) := ⟨empty⟩

instance : Inhabited (SortedSet α) := ⟨empty⟩

/-- Whether the set has no member. -/
def isEmpty (s : SortedSet α) : Bool := s.toList.isEmpty

@[simp] theorem not_mem_empty (a : α) : a ∉ (∅ : SortedSet α) := List.not_mem_nil

theorem isEmpty_iff {s : SortedSet α} : s.isEmpty = true ↔ ∀ a, a ∉ s := by
  rw [isEmpty, List.isEmpty_iff]
  exact List.eq_nil_iff_forall_not_mem

/-! ### Inserting -/

/-- Put `a` in its place in an ascending list; a member that is there already stays. -/
def insertInto (a : α) : List α → List α
  | [] => [a]
  | b :: l =>
    if Precedes a b then a :: b :: l
    else if Precedes b a then b :: insertInto a l
    else b :: l

theorem mem_insertInto {a x : α} {l : List α} : x ∈ insertInto a l ↔ x = a ∨ x ∈ l := by
  induction l with
  | nil => simp [insertInto]
  | cons b l ih =>
    rw [insertInto]
    split
    · simp
    · split
      · rw [List.mem_cons, ih, List.mem_cons]
        exact or_left_comm
      · next hab hba =>
        obtain rfl := eq_of_not hab hba
        simp

theorem insertInto_sorted {a : α} {l : List α} (h : l.Pairwise Precedes) :
    (insertInto a l).Pairwise Precedes := by
  induction l with
  | nil => exact List.pairwise_singleton _ _
  | cons b l ih =>
    rw [List.pairwise_cons] at h
    rw [insertInto]
    split
    · next hab =>
      refine List.pairwise_cons.2 ⟨fun x hx ↦ ?_, List.pairwise_cons.2 h⟩
      rcases List.mem_cons.1 hx with rfl | hx
      · exact hab
      · exact trans hab (h.1 x hx)
    · split
      · next hba =>
        refine List.pairwise_cons.2 ⟨fun x hx ↦ ?_, ih h.2⟩
        rcases mem_insertInto.1 hx with rfl | hx
        · exact hba
        · exact h.1 x hx
      · exact List.pairwise_cons.2 h

/-- Add a member. -/
def insert (s : SortedSet α) (a : α) : SortedSet α :=
  ⟨insertInto a s.toList, insertInto_sorted s.sorted⟩

theorem mem_insert {s : SortedSet α} {a x : α} : x ∈ s.insert a ↔ x = a ∨ x ∈ s :=
  mem_insertInto

/-- Add every item of a list. The last items go in first, so that an item of an ascending list goes
in before all that are there, in one step. -/
def insertAll (s : SortedSet α) (l : List α) : SortedSet α := l.foldr (fun a s ↦ s.insert a) s

theorem mem_insertAll {s : SortedSet α} {l : List α} {x : α} :
    x ∈ s.insertAll l ↔ x ∈ s ∨ x ∈ l := by
  induction l with
  | nil => simp [insertAll]
  | cons a l ih =>
    rw [insertAll, List.foldr_cons, ← insertAll, mem_insert, ih, List.mem_cons]
    exact or_left_comm

/-- **The set of a list's items**, whatever their order and however often they stand in it. -/
def ofList (l : List α) : SortedSet α := insertAll ∅ l

theorem mem_ofList {l : List α} {x : α} : x ∈ ofList l ↔ x ∈ l := by
  simp [ofList, mem_insertAll]

/-! ### Union, difference, image -/

/-- The members of either set. -/
def union (s t : SortedSet α) : SortedSet α := s.insertAll t.toList

theorem mem_union {s t : SortedSet α} {x : α} : x ∈ s.union t ↔ x ∈ s ∨ x ∈ t := mem_insertAll

/-- The members that pass a test. -/
def filter (s : SortedSet α) (p : α → Bool) : SortedSet α :=
  ⟨s.toList.filter p, s.sorted.filter p⟩

theorem mem_filter {s : SortedSet α} {p : α → Bool} {x : α} :
    x ∈ s.filter p ↔ x ∈ s ∧ p x = true := List.mem_filter

/-- The members of `s` that are not members of `t`. -/
def diff [DecidableEq α] (s t : SortedSet α) : SortedSet α := s.filter fun x ↦ !decide (x ∈ t)

theorem mem_diff [DecidableEq α] {s t : SortedSet α} {x : α} : x ∈ s.diff t ↔ x ∈ s ∧ x ∉ t := by
  simp [diff, mem_filter]

/-- The images of the members. -/
def image {β : Type} [SortKey β] (s : SortedSet α) (f : α → β) : SortedSet β :=
  ofList (s.toList.map f)

theorem mem_image {β : Type} [SortKey β] {s : SortedSet α} {f : α → β} {y : β} :
    y ∈ s.image f ↔ ∃ x, x ∈ s ∧ f x = y := by
  simp [image, mem_ofList, mem_toList]

/-! ### One value for each content -/

theorem eq_of_sorted_of_mem_iff {l m : List α} (hl : l.Pairwise Precedes)
    (hm : m.Pairwise Precedes) (h : ∀ x, x ∈ l ↔ x ∈ m) : l = m := by
  induction l generalizing m with
  | nil =>
    refine (List.eq_nil_iff_forall_not_mem.2 fun x hx ↦ ?_).symm
    exact List.not_mem_nil ((h x).2 hx)
  | cons a l ih =>
    cases m with
    | nil => exact absurd ((h a).1 List.mem_cons_self) List.not_mem_nil
    | cons b m =>
      rw [List.pairwise_cons] at hl hm
      obtain rfl : a = b := by
        rcases List.mem_cons.1 ((h a).1 List.mem_cons_self) with hab | ham
        · exact hab
        · rcases List.mem_cons.1 ((h b).2 List.mem_cons_self) with hba | hbl
          · exact hba.symm
          · exact absurd (hl.1 b hbl) (asymm (hm.1 a ham))
      refine congrArg (a :: ·) (ih hl.2 hm.2 fun x ↦ ⟨fun hx ↦ ?_, fun hx ↦ ?_⟩)
      · exact (List.mem_cons.1 ((h x).1 (List.mem_cons_of_mem _ hx))).resolve_left
          (ne_of_precedes (hl.1 x hx)).symm
      · exact (List.mem_cons.1 ((h x).2 (List.mem_cons_of_mem _ hx))).resolve_left
          (ne_of_precedes (hm.1 x hx)).symm

/-- **Sets with the same members are equal.** -/
theorem ext_mem {s t : SortedSet α} (h : ∀ x, x ∈ s ↔ x ∈ t) : s = t :=
  toList_inj (eq_of_sorted_of_mem_iff s.sorted t.sorted h)

/-- No member stands twice in a set. -/
theorem nodup (s : SortedSet α) : s.toList.Nodup := s.sorted.imp ne_of_precedes

theorem ofList_toList (s : SortedSet α) : ofList s.toList = s :=
  ext_mem fun _ ↦ mem_ofList

end SortedSet

end TraceReconciler
