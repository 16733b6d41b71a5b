/-!
# Keys of sorted collections

A sorted collection has one written form for each content, so that equality of values, equality of
contents and equality of texts can be the same thing. What it needs of its keys is collected here:
a decidable strict order in which two keys, neither of which precedes the other, are equal.

The order of a compound key is read off its parts from left to right (`LexStep`), so that the order
of a pair, a triple or a quadruple is one fact used several times.
-/

namespace TraceReconciler

/-- A decidable strict total order. -/
class SortKey (α : Type) where
  /-- The first key stands before the second in every collection. -/
  Precedes : α → α → Prop
  /-- Which of two keys comes first can be computed. -/
  decPrecedes : DecidableRel Precedes
  /-- No key precedes itself. -/
  irrefl : ∀ a, ¬ Precedes a a
  /-- The order is transitive. -/
  trans : ∀ {a b c}, Precedes a b → Precedes b c → Precedes a c
  /-- Keys that the order cannot tell apart are equal. -/
  eq_of_not : ∀ {a b}, ¬ Precedes a b → ¬ Precedes b a → a = b

namespace SortKey

variable {α β : Type} [SortKey α] [SortKey β]

instance : DecidableRel (Precedes : α → α → Prop) := SortKey.decPrecedes

/-- **Of two keys exactly one order holds**, so each rules the other out. -/
theorem asymm {a b : α} (h : Precedes a b) : ¬ Precedes b a :=
  fun h' ↦ irrefl a (trans h h')

theorem ne_of_precedes {a b : α} (h : Precedes a b) : a ≠ b := by
  rintro rfl
  exact irrefl a h

/-! ### Keys by their parts -/

/-- Two keys compared by two parts: the first part decides unless it is the same in both. -/
def LexStep (a a' : α) (b b' : β) : Prop :=
  Precedes a a' ∨ (a = a' ∧ Precedes b b')

/-- **A pair is ordered by its first part, then by its second.** -/
instance instProd [DecidableEq α] : SortKey (α × β) where
  Precedes x y := LexStep x.1 y.1 x.2 y.2
  decPrecedes x y := inferInstanceAs (Decidable (_ ∨ _))
  irrefl x h := h.elim (irrefl x.1) fun h ↦ irrefl x.2 h.2
  trans := by
    rintro ⟨a, b⟩ ⟨a', b'⟩ ⟨a'', b''⟩ (h | ⟨rfl, h⟩) (h' | ⟨rfl, h'⟩)
    · exact Or.inl (trans h h')
    · exact Or.inl h
    · exact Or.inl h'
    · exact Or.inr ⟨rfl, trans h h'⟩
  eq_of_not := by
    rintro ⟨a, b⟩ ⟨a', b'⟩ h h'
    have ha : a = a' := eq_of_not (fun ha ↦ h (Or.inl ha)) (fun ha ↦ h' (Or.inl ha))
    subst ha
    have hb : b = b' := eq_of_not (fun hb ↦ h (Or.inr ⟨rfl, hb⟩)) (fun hb ↦ h' (Or.inr ⟨rfl, hb⟩))
    rw [hb]

/-- A key taken from a value is a key for the value, as long as it determines the value. -/
@[reducible] def ofInjective {γ : Type} (key : γ → α) (inj : ∀ x y, key x = key y → x = y) :
    SortKey γ where
  Precedes x y := Precedes (key x) (key y)
  decPrecedes _ _ := inferInstance
  irrefl x := irrefl (key x)
  trans := trans
  eq_of_not h h' := inj _ _ (eq_of_not h h')

/-! ### Words and texts -/

/-- Natural numbers by size. -/
instance instNat : SortKey Nat where
  Precedes a b := a < b
  decPrecedes a b := Nat.decLt a b
  irrefl := Nat.lt_irrefl
  trans := Nat.lt_trans
  eq_of_not h h' := Nat.le_antisymm (Nat.le_of_not_lt h') (Nat.le_of_not_lt h)

/-- Words of 32 bits by the number they hold. -/
instance instUInt32 : SortKey UInt32 := ofInjective UInt32.toNat fun _ _ ↦ UInt32.toNat.inj

/-- Words of 64 bits by the number they hold. -/
instance instUInt64 : SortKey UInt64 := ofInjective UInt64.toNat fun _ _ ↦ UInt64.toNat.inj

/-- Characters by their code point. -/
instance instChar : SortKey Char :=
  ofInjective Char.toNat fun _ _ h ↦ Char.toNat_inj.1 h

/-- Lists compare item by item, and a list precedes its proper extensions. -/
def ListPrecedes : List α → List α → Prop
  | _, [] => False
  | [], _ :: _ => True
  | a :: l, b :: m => Precedes a b ∨ (a = b ∧ ListPrecedes l m)

/-- The order of two lists is computed along them. -/
@[reducible] def decListPrecedes [DecidableEq α] :
    DecidableRel (ListPrecedes : List α → List α → Prop)
  | [], [] => isFalse id
  | _ :: _, [] => isFalse id
  | [], _ :: _ => isTrue trivial
  | a :: l, b :: m =>
    have := decListPrecedes l m
    inferInstanceAs (Decidable (Precedes a b ∨ (a = b ∧ ListPrecedes l m)))

theorem listPrecedes_irrefl (l : List α) : ¬ ListPrecedes l l := by
  induction l with
  | nil => exact id
  | cons a l ih => exact fun h ↦ h.elim (irrefl a) fun h ↦ ih h.2

theorem listPrecedes_trans {l m n : List α} (h : ListPrecedes l m) (h' : ListPrecedes m n) :
    ListPrecedes l n := by
  induction l generalizing m n with
  | nil =>
    match m, n, h, h' with
    | _ :: _, _ :: _, _, _ => exact trivial
  | cons a l ih =>
    match m, n, h, h' with
    | _ :: _, _ :: _, Or.inl h, Or.inl h' => exact Or.inl (trans h h')
    | _ :: _, _ :: _, Or.inl h, Or.inr ⟨rfl, _⟩ => exact Or.inl h
    | _ :: _, _ :: _, Or.inr ⟨rfl, _⟩, Or.inl h' => exact Or.inl h'
    | _ :: _, _ :: _, Or.inr ⟨rfl, h⟩, Or.inr ⟨rfl, h'⟩ => exact Or.inr ⟨rfl, ih h h'⟩

theorem eq_of_not_listPrecedes {l m : List α} (h : ¬ ListPrecedes l m) (h' : ¬ ListPrecedes m l) :
    l = m := by
  induction l generalizing m with
  | nil =>
    cases m with
    | nil => rfl
    | cons b m => exact absurd trivial h
  | cons a l ih =>
    cases m with
    | nil => exact absurd trivial h'
    | cons b m =>
      obtain rfl : a = b := eq_of_not (fun hab ↦ h (Or.inl hab)) (fun hba ↦ h' (Or.inl hba))
      rw [ih (fun hlm ↦ h (Or.inr ⟨rfl, hlm⟩)) (fun hml ↦ h' (Or.inr ⟨rfl, hml⟩))]

/-- Lists of keys, in dictionary order. -/
instance instList [DecidableEq α] : SortKey (List α) where
  Precedes := ListPrecedes
  decPrecedes := decListPrecedes
  irrefl := listPrecedes_irrefl
  trans := listPrecedes_trans
  eq_of_not := eq_of_not_listPrecedes

/-- **Texts compare character by character, by code point.** -/
instance instString : SortKey String := ofInjective String.toList fun _ _ ↦ String.toList_inj.1

end SortKey

end TraceReconciler
