import TraceReconciler.Ordered.Set

/-!
# Sorted maps

A finite map kept as the list of its entries, ascending by key. As with sorted sets, the order is
part of the type and **maps with the same look-ups are the same value** (`SortedMap.ext_get?`).

Writing an entry replaces what stood under its key, so of several entries for one key the last one
written remains (`get?_insert`, `get?_insertAll`, `get?_ofList_eq_some_iff`).
-/

namespace TraceReconciler

open SortKey

/-- A finite map, kept as its entries in strictly ascending order of the keys. -/
structure SortedMap (κ ν : Type) [SortKey κ] where
  /-- The entries, in order. -/
  entries : List (κ × ν)
  /-- The key of each entry precedes the keys of all later ones. -/
  sorted : entries.Pairwise fun a b ↦ Precedes a.1 b.1

namespace SortedMap

variable {κ ν : Type} [SortKey κ]

theorem entries_inj {m n : SortedMap κ ν} (h : m.entries = n.entries) : m = n := by
  cases m
  cases n
  cases h
  rfl

instance [DecidableEq κ] [DecidableEq ν] : DecidableEq (SortedMap κ ν) := fun m n ↦
  decidable_of_iff (m.entries = n.entries) ⟨entries_inj, fun h ↦ h ▸ rfl⟩

/-- The map without entries. -/
def empty : SortedMap κ ν := ⟨[], List.Pairwise.nil⟩

instance : EmptyCollection (SortedMap κ ν) := ⟨empty⟩

instance : Inhabited (SortedMap κ ν) := ⟨empty⟩

/-- Whether the map has no entry. -/
def isEmpty (m : SortedMap κ ν) : Bool := m.entries.isEmpty

/-! ### Looking up -/

/-- The value under `k` in a list of entries. -/
def find? [DecidableEq κ] (k : κ) : List (κ × ν) → Option ν
  | [] => none
  | (k', v) :: l => if k' = k then some v else find? k l

/-- The value under a key. -/
def get? [DecidableEq κ] (m : SortedMap κ ν) (k : κ) : Option ν := find? k m.entries

omit [SortKey κ] in
/-- Where a key has one value only, a search finds exactly its entries, whatever their order. -/
theorem find?_eq_some_iff [DecidableEq κ] {k : κ} {v : ν} {l : List (κ × ν)}
    (hl : ∀ v v', (k, v) ∈ l → (k, v') ∈ l → v = v') : find? k l = some v ↔ (k, v) ∈ l := by
  induction l with
  | nil => simp [find?]
  | cons e l ih =>
    obtain ⟨k', v'⟩ := e
    rw [find?, List.mem_cons]
    split
    · next hk =>
      subst hk
      refine ⟨fun h ↦ Or.inl (by rw [Option.some.inj h]), fun h ↦ ?_⟩
      rw [hl v' v List.mem_cons_self (List.mem_cons.2 h)]
    · next hk =>
      rw [ih fun v v' h h' ↦ hl v v' (List.mem_cons_of_mem _ h) (List.mem_cons_of_mem _ h')]
      refine ⟨Or.inr, fun h ↦ h.resolve_left fun h ↦ hk (Prod.mk.inj h).1.symm⟩

/-- No key stands twice in a map. -/
theorem value_unique (m : SortedMap κ ν) {k : κ} {v v' : ν} (h : (k, v) ∈ m.entries)
    (h' : (k, v') ∈ m.entries) : v = v' := by
  obtain ⟨i, hi, hvi⟩ := List.getElem_of_mem h
  obtain ⟨j, hj, hvj⟩ := List.getElem_of_mem h'
  have hsorted := List.pairwise_iff_getElem.1 m.sorted
  rcases Nat.lt_trichotomy i j with hij | rfl | hij
  · have hprecedes := hsorted i j hi hj hij
    rw [hvi, hvj] at hprecedes
    exact absurd hprecedes (irrefl k)
  · exact (Prod.mk.inj (hvi.symm.trans hvj)).2
  · have hprecedes := hsorted j i hj hi hij
    rw [hvi, hvj] at hprecedes
    exact absurd hprecedes (irrefl k)

/-- **A look-up finds exactly the entry of the key.** -/
theorem get?_eq_some_iff [DecidableEq κ] {m : SortedMap κ ν} {k : κ} {v : ν} :
    m.get? k = some v ↔ (k, v) ∈ m.entries :=
  find?_eq_some_iff fun _ _ h h' ↦ m.value_unique h h'

/-- Whether the key has an entry. -/
def contains [DecidableEq κ] (m : SortedMap κ ν) (k : κ) : Bool := (m.get? k).isSome

/-- The keys that have an entry. -/
def keys (m : SortedMap κ ν) : SortedSet κ :=
  ⟨m.entries.map Prod.fst, List.pairwise_map.2 m.sorted⟩

theorem mem_keys {m : SortedMap κ ν} {k : κ} : k ∈ m.keys ↔ ∃ v, (k, v) ∈ m.entries := by
  simp [keys, ← SortedSet.mem_toList]

theorem mem_keys_iff_isSome [DecidableEq κ] {m : SortedMap κ ν} {k : κ} :
    k ∈ m.keys ↔ (m.get? k).isSome = true := by
  rw [mem_keys, Option.isSome_iff_exists]
  exact exists_congr fun v ↦ get?_eq_some_iff.symm

/-! ### Writing entries -/

/-- Put an entry in its place in an ascending list of entries, over one with the same key. -/
def insertInto (k : κ) (v : ν) : List (κ × ν) → List (κ × ν)
  | [] => [(k, v)]
  | (k', v') :: l =>
    if Precedes k k' then (k, v) :: (k', v') :: l
    else if Precedes k' k then (k', v') :: insertInto k v l
    else (k, v) :: l

theorem key_mem_of_mem_insertInto {k : κ} {v : ν} {e : κ × ν} {l : List (κ × ν)}
    (h : e ∈ insertInto k v l) : e = (k, v) ∨ e ∈ l := by
  induction l with
  | nil => exact Or.inl (List.mem_singleton.1 h)
  | cons e' l ih =>
    rw [insertInto] at h
    split at h
    · exact List.mem_cons.1 h
    · split at h
      · rcases List.mem_cons.1 h with h | h
        · exact Or.inr (List.mem_cons.2 (Or.inl h))
        · exact (ih h).imp_right (List.mem_cons_of_mem _)
      · exact (List.mem_cons.1 h).imp_right (List.mem_cons_of_mem _)

theorem insertInto_sorted {k : κ} {v : ν} {l : List (κ × ν)}
    (h : l.Pairwise fun a b ↦ Precedes a.1 b.1) :
    (insertInto k v l).Pairwise fun a b ↦ Precedes a.1 b.1 := by
  induction l with
  | nil => exact List.pairwise_singleton _ _
  | cons e l ih =>
    obtain ⟨k', v'⟩ := e
    rw [List.pairwise_cons] at h
    rw [insertInto]
    split
    · next hk =>
      refine List.pairwise_cons.2 ⟨fun x hx ↦ ?_, List.pairwise_cons.2 h⟩
      rcases List.mem_cons.1 hx with rfl | hx
      · exact hk
      · exact trans hk (h.1 x hx)
    · split
      · next hk =>
        refine List.pairwise_cons.2 ⟨fun x hx ↦ ?_, ih h.2⟩
        rcases key_mem_of_mem_insertInto hx with rfl | hx
        · exact hk
        · exact h.1 x hx
      · next hk hk' =>
        obtain rfl := eq_of_not hk hk'
        exact List.pairwise_cons.2 ⟨h.1, h.2⟩

/-- Write an entry. -/
def insert (m : SortedMap κ ν) (k : κ) (v : ν) : SortedMap κ ν :=
  ⟨insertInto k v m.entries, insertInto_sorted m.sorted⟩

theorem find?_insertInto [DecidableEq κ] (k k' : κ) (v : ν) (l : List (κ × ν)) :
    find? k' (insertInto k v l) = if k = k' then some v else find? k' l := by
  induction l with
  | nil => simp [insertInto, find?]
  | cons e l ih =>
    obtain ⟨a, b⟩ := e
    rw [insertInto]
    split
    · rw [find?]
    · split
      · next hk =>
        rw [find?, find?, ih]
        by_cases hak : a = k'
        · subst hak
          rw [if_pos rfl, if_pos rfl, if_neg (ne_of_precedes hk).symm]
        · rw [if_neg hak, if_neg hak]
      · next hk hk' =>
        obtain rfl := eq_of_not hk hk'
        rw [find?, find?]
        by_cases hkk : k = k'
        · rw [if_pos hkk, if_pos hkk]
        · rw [if_neg hkk, if_neg hkk, if_neg hkk]

/-- **Writing changes the look-up of one key.** -/
theorem get?_insert [DecidableEq κ] (m : SortedMap κ ν) (k k' : κ) (v : ν) :
    (m.insert k v).get? k' = if k = k' then some v else m.get? k' :=
  find?_insertInto k k' v m.entries

/-- Write every entry of a list, from left to right. -/
def insertAll (m : SortedMap κ ν) (l : List (κ × ν)) : SortedMap κ ν :=
  l.foldl (fun m e ↦ m.insert e.1 e.2) m

/-- The map of a list of entries; of several entries for one key the last remains. -/
def ofList (l : List (κ × ν)) : SortedMap κ ν := insertAll ∅ l

theorem get?_insertAll [DecidableEq κ] (m : SortedMap κ ν) (l : List (κ × ν)) (k : κ) :
    (m.insertAll l).get? k = (find? k l.reverse).or (m.get? k) := by
  have find?_append (l₁ l₂ : List (κ × ν)) :
      find? k (l₁ ++ l₂) = (find? k l₁).or (find? k l₂) := by
    induction l₁ with
    | nil => simp [find?]
    | cons e l₁ ih =>
      rw [List.cons_append, find?, find?]
      split
      · rfl
      · exact ih
  induction l generalizing m with
  | nil => simp [insertAll, find?]
  | cons e l ih =>
    rw [insertAll, List.foldl_cons, ← insertAll, ih, get?_insert, List.reverse_cons, find?_append,
      Option.or_assoc]
    congr 1
    simp only [find?]
    split <;> simp

/-- The direction of a search does not matter where every key has one value only. -/
theorem find?_reverse [DecidableEq κ] {m : SortedMap κ ν} {l : List (κ × ν)}
    (h : ∀ k v, (k, v) ∈ l ↔ m.get? k = some v) (k : κ) : find? k l.reverse = m.get? k := by
  refine Option.ext fun v ↦ ?_
  rw [find?_eq_some_iff, List.mem_reverse, h]
  intro v v' hv hv'
  rw [List.mem_reverse, h] at hv hv'
  exact Option.some.inj (hv.symm.trans hv')

/-- The entries of both maps; `n` decides where both have one. -/
def union (m n : SortedMap κ ν) : SortedMap κ ν := m.insertAll n.entries

theorem get?_union [DecidableEq κ] (m n : SortedMap κ ν) (k : κ) :
    (m.union n).get? k = (n.get? k).or (m.get? k) := by
  rw [union, get?_insertAll, find?_reverse fun _ _ ↦ get?_eq_some_iff.symm]

/-- The entries whose key passes a test. -/
def filterKeys (m : SortedMap κ ν) (p : κ → Bool) : SortedMap κ ν :=
  ⟨m.entries.filter fun e ↦ p e.1, m.sorted.filter _⟩

theorem get?_filterKeys [DecidableEq κ] (m : SortedMap κ ν) (p : κ → Bool) (k : κ) :
    (m.filterKeys p).get? k = if p k then m.get? k else none := by
  show find? k (m.entries.filter fun e ↦ p e.1) = if p k then find? k m.entries else none
  induction m.entries with
  | nil => simp [find?]
  | cons e l ih =>
    obtain ⟨k', v⟩ := e
    rw [List.filter_cons]
    by_cases hk : k' = k
    · subst hk
      by_cases hp : p k' = true
      · simp [hp, find?]
      · simp only [hp, Bool.false_eq_true, if_false]
        rw [ih]
        simp [hp]
    · by_cases hp : p k' = true
      · simp only [hp, if_true, find?, if_neg hk]
        exact ih
      · simp only [hp, Bool.false_eq_true, if_false, find?, if_neg hk]
        exact ih

/-- The map without the entries of some keys. -/
def eraseAll [DecidableEq κ] (m : SortedMap κ ν) (s : SortedSet κ) : SortedMap κ ν :=
  m.filterKeys fun k ↦ !decide (k ∈ s)

theorem get?_eraseAll [DecidableEq κ] (m : SortedMap κ ν) (s : SortedSet κ) (k : κ) :
    (m.eraseAll s).get? k = if k ∈ s then none else m.get? k := by
  rw [eraseAll, get?_filterKeys]
  by_cases h : k ∈ s <;> simp [h]

/-- The map with the same value under every key of a set. -/
def const (s : SortedSet κ) (v : ν) : SortedMap κ ν :=
  ⟨s.toList.map fun k ↦ (k, v), List.pairwise_map.2 s.sorted⟩

theorem get?_const [DecidableEq κ] (s : SortedSet κ) (v : ν) (k : κ) :
    (const s v).get? k = if k ∈ s then some v else none := by
  by_cases h : k ∈ s
  · rw [if_pos h, get?_eq_some_iff]
    exact List.mem_map.2 ⟨k, h, rfl⟩
  · rw [if_neg h, Option.eq_none_iff_forall_not_mem]
    intro w hw
    obtain ⟨k', hk', he⟩ := List.mem_map.1 (get?_eq_some_iff.1 hw)
    exact h ((Prod.mk.inj he).1 ▸ hk')

/-! ### One value for each content -/

/-- **Maps with the same look-ups are equal.** -/
theorem ext_get? [DecidableEq κ] {m n : SortedMap κ ν} (h : ∀ k, m.get? k = n.get? k) : m = n := by
  have mem_iff : ∀ e, e ∈ m.entries ↔ e ∈ n.entries := fun e ↦ by
    rw [← get?_eq_some_iff (m := m), ← get?_eq_some_iff (m := n), h e.1]
  have key : ∀ l l' : List (κ × ν), l.Pairwise (fun a b ↦ Precedes a.1 b.1) →
      l'.Pairwise (fun a b ↦ Precedes a.1 b.1) → (∀ e, e ∈ l ↔ e ∈ l') → l = l' := by
    intro l
    induction l with
    | nil =>
      intro l' _ _ hm
      exact (List.eq_nil_iff_forall_not_mem.2 fun e he ↦ List.not_mem_nil ((hm e).2 he)).symm
    | cons a l ih =>
      intro l' hl hl' hm
      cases l' with
      | nil => exact absurd ((hm a).1 List.mem_cons_self) List.not_mem_nil
      | cons b l' =>
        rw [List.pairwise_cons] at hl hl'
        obtain rfl : a = b := by
          rcases List.mem_cons.1 ((hm a).1 List.mem_cons_self) with hab | ha
          · exact hab
          · rcases List.mem_cons.1 ((hm b).2 List.mem_cons_self) with hba | hb
            · exact hba.symm
            · exact absurd (hl.1 b hb) (asymm (hl'.1 a ha))
        refine congrArg (a :: ·) (ih l' hl.2 hl'.2 fun x ↦ ⟨fun hx ↦ ?_, fun hx ↦ ?_⟩)
        · refine (List.mem_cons.1 ((hm x).1 (List.mem_cons_of_mem _ hx))).resolve_left ?_
          rintro rfl
          exact irrefl _ (hl.1 _ hx)
        · refine (List.mem_cons.1 ((hm x).2 (List.mem_cons_of_mem _ hx))).resolve_left ?_
          rintro rfl
          exact irrefl _ (hl'.1 _ hx)
  exact entries_inj (key _ _ m.sorted n.sorted mem_iff)

/-! ### Maps of entries that are listed -/

omit [SortKey κ] in
theorem find?_eq_none_iff [DecidableEq κ] {k : κ} {l : List (κ × ν)} :
    find? k l = none ↔ ∀ e ∈ l, e.1 ≠ k := by
  induction l with
  | nil => simp [find?]
  | cons e l ih =>
    rw [find?, List.forall_mem_cons, ← ih]
    split <;> simp_all

omit [SortKey κ] in
/-- A search finds the first entry. -/
theorem find?_eq_some_iff_append [DecidableEq κ] {k : κ} {v : ν} {l : List (κ × ν)} :
    find? k l = some v ↔ ∃ before after, l = before ++ (k, v) :: after ∧ ∀ e ∈ before, e.1 ≠ k := by
  constructor
  · intro h
    induction l with
    | nil => cases h
    | cons e l ih =>
      obtain ⟨k', v'⟩ := e
      rw [find?] at h
      split at h
      · next hk =>
        obtain rfl := Option.some.inj h
        exact ⟨[], l, by rw [hk]; rfl, fun _ he ↦ absurd he List.not_mem_nil⟩
      · next hk =>
        obtain ⟨before, after, rfl, hbefore⟩ := ih h
        exact ⟨(k', v') :: before, after, rfl, List.forall_mem_cons.2 ⟨hk, hbefore⟩⟩
  · rintro ⟨before, after, rfl, hbefore⟩
    induction before with
    | nil => simp [find?]
    | cons e before ih =>
      rw [List.forall_mem_cons] at hbefore
      rw [List.cons_append, find?, if_neg hbefore.1, ih hbefore.2]

theorem get?_ofList [DecidableEq κ] (l : List (κ × ν)) (k : κ) :
    (ofList l).get? k = find? k l.reverse := by
  have hempty : (∅ : SortedMap κ ν).get? k = none := rfl
  rw [ofList, get?_insertAll, hempty, Option.or_none]

/-- **The last entry of a list counts.** -/
theorem get?_ofList_eq_some_iff [DecidableEq κ] {l : List (κ × ν)} {k : κ} {v : ν} :
    (ofList l).get? k = some v ↔
      ∃ before after, l = before ++ (k, v) :: after ∧ ∀ e ∈ after, e.1 ≠ k := by
  rw [get?_ofList, find?_eq_some_iff_append]
  constructor
  · rintro ⟨before, after, h, hbefore⟩
    refine ⟨after.reverse, before.reverse, ?_, by simpa using hbefore⟩
    rw [← List.reverse_reverse l, h]
    simp
  · rintro ⟨before, after, rfl, hafter⟩
    exact ⟨after.reverse, before.reverse, by simp, by simpa using hafter⟩

theorem mem_keys_ofList [DecidableEq κ] {l : List (κ × ν)} {k : κ} :
    k ∈ (ofList l).keys ↔ ∃ e ∈ l, e.1 = k := by
  rw [mem_keys_iff_isSome, get?_ofList, Option.isSome_iff_ne_none, ne_eq, find?_eq_none_iff]
  simp

/-- **A map is the map of its entries**, in any order and with any repetitions. -/
theorem ofList_eq [DecidableEq κ] {m : SortedMap κ ν} {l : List (κ × ν)}
    (h : ∀ k v, (k, v) ∈ l ↔ m.get? k = some v) : ofList l = m :=
  ext_get? fun k ↦ by rw [get?_ofList, find?_reverse h]

theorem ofList_entries [DecidableEq κ] (m : SortedMap κ ν) : ofList m.entries = m :=
  ofList_eq fun _ _ ↦ get?_eq_some_iff.symm

end SortedMap

end TraceReconciler
