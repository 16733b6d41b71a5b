import Mathlib.Data.List.Forall2
import TraceReconciler.Proofs.Json.Members

/-!
# Objects with members that nobody asked for

The texts that one value may be presented by are not only those that this library writes. An object
may list its members in any order, leave some of them out, escape their names and hold members that
nobody asked for, whatever stands in them. A record may also be an array of its fields (`RecordOf`).

* `Expected` is a member that an object is asked for: its name, the trees that it may have, and
  whether it may be missing. `Gives` says of the members of an object that they give what is
  expected of them. **This is not enough for reading them**: a key among them may be no name, and
  `Lists` says that none is.
* A member with an expected name is read, and nothing else is (`Lists.exists_fields_eq`); where an
  object is read, every expected member that it has has been (`Gives.exists_of_fields_eq`).

**The order in which fields are found is left open**, so a record has to be built of them by looking
each one up. For this it is enough to know that every field which is found has its value, and that
one which is not found may be missing (`Found`).
-/

namespace TraceReconciler.Json

variable {α β : Type} {o : Origin}

/-! ### Members that are expected -/

/-- **A member that an object is expected to have.** -/
structure Expected where
  /-- Its name. -/
  name : String
  /-- The trees that it may have. -/
  Accepts : Node → Prop
  /-- Whether it may be missing. -/
  MayLack : Prop

/-- **Members give what is expected.** They stand in any order, among any members with other
names. -/
structure Gives (expected : List Expected) (ms : List (StringToken × Node)) : Prop where
  /-- What is expected is given at most once. -/
  once : ms.Pairwise fun m m' ↦ ∀ e ∈ expected, m.1.Denotes e.name → ¬ m'.1.Denotes e.name
  /-- An expected member has a tree that it may have, -/
  accepted : ∀ m ∈ ms, ∀ e ∈ expected, m.1.Denotes e.name → e.Accepts m.2
  /-- and is there unless it may be missing. -/
  complete : ∀ e ∈ expected, e.MayLack ∨ ∃ m ∈ ms, m.1.Denotes e.name

/-- **Members list what is expected**: they give it, and none of them has a key that is no name. A
key is no name if it escapes half of a pair of units, and then the object cannot be read, whatever
the member is for. -/
structure Lists (expected : List Expected) (ms : List (StringToken × Node)) : Prop
    extends Gives expected ms where
  /-- Every key is a name. -/
  named : Named ms

/-- A member that may have only some of its trees. -/
def Expected.narrow (e : Expected) (Keeps : Node → Prop) : Expected :=
  { e with Accepts := fun n ↦ e.Accepts n ∧ Keeps n }

/-- **What is expected may be narrowed** to what the trees that are there have in common. -/
theorem Gives.narrow {expected : List Expected} {ms : List (StringToken × Node)}
    {Keeps : String → Node → Prop} (h : Gives expected ms)
    (hkeeps : ∀ name, ∀ x ∈ valuesOf name ms, Keeps name x) :
    Gives (expected.map fun e ↦ e.narrow (Keeps e.name)) ms where
  once := h.once.imp fun honce ↦ List.forall_mem_map.2 honce
  accepted m hm := List.forall_mem_map.2 fun e he hname ↦
    ⟨h.accepted m hm e he hname, hkeeps e.name m.2 (mem_valuesOf.2 ⟨m, hm, hname, rfl⟩)⟩
  complete := List.forall_mem_map.2 h.complete

section

variable {field? : String → Option (Decoder β)}

/-- **A field reads what is expected of its member.** -/
def Meets (field? : String → Option (Decoder β)) (o : Origin) (e : Expected) (v : β) : Prop :=
  ∃ decode, field? e.name = some decode ∧
    ∀ n : Node, n.skip = .ok () → e.Accepts n → decode o n = .ok v

/-- A field wraps what a decoder reads. -/
theorem Meets.of_decode {decode : Decoder α} {wrap : α → β} {e : Expected} {a : α}
    (hname : field? e.name = some fun o n ↦ wrap <$> decode o n)
    (h : ∀ n : Node, n.skip = .ok () → e.Accepts n → decode o n = .ok a) :
    Meets field? o e (wrap a) := by
  refine ⟨_, hname, fun n hskip hn ↦ ?_⟩
  show wrap <$> decode o n = .ok (wrap a)
  rw [h n hskip hn]
  rfl

/-- **What is found of the fields that belong to expected members.** -/
structure Found (table : List (Expected × β)) (vs : List β) : Prop where
  /-- Every field that is found is one of them, -/
  field : ∀ v ∈ vs, ∃ x ∈ table, x.2 = v
  /-- and one that is not found may be missing. -/
  complete : ∀ x ∈ table, x.1.MayLack ∨ x.2 ∈ vs

/-- **What is expected is read**, if the fields are just the expected members. -/
theorem Lists.exists_fields_eq {table : List (Expected × β)} {ms : List (StringToken × Node)}
    (h : Lists (table.map Prod.fst) ms) (hskip : ∀ m ∈ ms, m.2.skip = .ok ())
    (hmeets : ∀ x ∈ table, Meets field? o x.1 x.2)
    (hfield : ∀ name, (∀ x ∈ table, x.1.name ≠ name) → field? name = none) :
    ∃ vs, fields field? o .closed [] ms = .ok vs ∧ Found table vs := by
  have hread : ∀ x ∈ table, ∀ m ∈ ms, m.1.Denotes x.1.name → IsField field? o m x.2 := by
    intro x hx m hm hname
    obtain ⟨decode, hdecode, haccepts⟩ := hmeets x hx
    exact ⟨x.1.name, decode, hname, hdecode,
      haccepts m.2 (hskip m hm) (h.accepted m hm x.1 (List.mem_map_of_mem hx) hname)⟩
  have hexpected : ∀ name, (field? name).isSome → ∃ x ∈ table, x.1.name = name := by
    intro name hsome
    by_contra hno
    rw [hfield name fun x hx hname ↦ hno ⟨x, hx, hname⟩] at hsome
    cases hsome
  have hall : ∀ m ∈ ms, IsOther field? m ∨ ∃ v, IsField field? o m v := by
    intro m hm
    obtain ⟨name, hname⟩ := h.named m hm
    cases hfound : field? name with
    | none => exact .inl ⟨name, hname, hfound, hskip m hm⟩
    | some decode =>
      obtain ⟨x, hx, rfl⟩ := hexpected name (by rw [hfound]; rfl)
      exact .inr ⟨x.2, hread x hx m hm hname⟩
  have honce : ms.Pairwise fun m m' ↦
      ∀ name, (field? name).isSome → m.1.Denotes name → ¬ m'.1.Denotes name := by
    refine h.once.imp fun honce name hsome hname ↦ ?_
    obtain ⟨x, hx, rfl⟩ := hexpected name hsome
    exact honce x.1 (List.mem_map_of_mem hx) hname
  obtain ⟨vs, seen, hpart⟩ := exists_readsPart hall honce
    fun _ _ name hname ↦ absurd hname List.not_mem_nil
  refine ⟨vs, hpart.fields_eq, fun v hv ↦ ?_, fun x hx ↦ ?_⟩
  · obtain ⟨m, hm, hv⟩ := (hpart.found v).1 hv
    obtain ⟨name, hname, hsome⟩ := hv.exists_isSome
    obtain ⟨x, hx, rfl⟩ := hexpected name hsome
    exact ⟨x, hx, (hread x hx m hm hname).unique hv⟩
  · refine (h.complete x.1 (List.mem_map_of_mem hx)).imp_right ?_
    rintro ⟨m, hm, hname⟩
    exact (hpart.found x.2).2 ⟨m, hm, hread x hx m hm hname⟩

/-- **Where an object is read, what is expected of it is.** -/
theorem Gives.exists_of_fields_eq {expected : List Expected} {ms : List (StringToken × Node)}
    {vs : List β} (h : Gives expected ms) (hfields : fields field? o .closed [] ms = .ok vs)
    {e : Expected} (he : e ∈ expected) {decode : Decoder β}
    (hdecode : field? e.name = some decode) :
    e.MayLack ∨ ∃ m ∈ ms, e.Accepts m.2 ∧ ∃ v, decode o m.2 = .ok v := by
  refine (h.complete e he).imp_right ?_
  rintro ⟨m, hm, hname⟩
  have hvalue : m.2 ∈ valuesOf e.name ms := mem_valuesOf.2 ⟨m, hm, hname, rfl⟩
  exact ⟨m, hm, h.accepted m hm e he hname, exists_of_mem_valuesOf hfields hdecode m.2 hvalue⟩

end

/-! ### Looking fields up -/

namespace Found

variable {table : List (Expected × β)} {vs : List β} {f : β → Option α} {a : α}

/-- A field that is looked up has its value, if it is the only one that is looked up so. -/
theorem eq_of_findSome? (h : Found table vs) (hone : (table.map Prod.snd).filterMap f = [a])
    {a' : α} (hfound : vs.findSome? f = some a') : a' = a := by
  obtain ⟨v, hv, hva⟩ := List.exists_of_findSome?_eq_some hfound
  obtain ⟨x, hx, rfl⟩ := h.field v hv
  have hmem : a' ∈ (table.map Prod.snd).filterMap f :=
    List.mem_filterMap.2 ⟨x.2, List.mem_map_of_mem hx, hva⟩
  rw [hone] at hmem
  exact List.mem_singleton.1 hmem

variable {i : Nat} {e : Expected} {v : β}

/-- **A field that has to be there is found.** -/
theorem findSome?_eq (h : Found table vs) (hone : (table.map Prod.snd).filterMap f = [a])
    (hi : table[i]? = some (e, v)) (hv : f v = some a) (hlack : ¬ e.MayLack) :
    vs.findSome? f = some a := by
  cases hfound : vs.findSome? f with
  | some a' => rw [h.eq_of_findSome? hone hfound]
  | none =>
    have hmem : v ∈ vs := (h.complete (e, v) (List.mem_of_getElem? hi)).resolve_left hlack
    exact absurd (hv.symm.trans (List.findSome?_eq_none_iff.1 hfound v hmem)) nofun

/-- **A field has its value whether it is found or not**, if it may be missing only where its value
is what is taken instead. -/
theorem findSome?_getD (h : Found table vs) (hone : (table.map Prod.snd).filterMap f = [a])
    (hi : table[i]? = some (e, v)) (hv : f v = some a) {d : α} (hlack : e.MayLack → a = d) :
    (vs.findSome? f).getD d = a := by
  by_cases hmay : e.MayLack
  · cases hfound : vs.findSome? f with
    | some a' => exact h.eq_of_findSome? hone hfound
    | none => exact (hlack hmay).symm
  · rw [h.findSome?_eq hone hi hv hmay]
    rfl

end Found

/-! ### Arrays -/

theorem exists_of_eachItem_eq_ok {decode : Decoder α} {ns : List Node} {l : List α}
    (h : eachItem decode o ns = .ok l) : ∀ n ∈ ns, ∃ a, decode o n = .ok a := by
  induction ns generalizing l with
  | nil => exact fun _ hn ↦ absurd hn List.not_mem_nil
  | cons n ns ih =>
    obtain ⟨a, ha, h⟩ := exists_of_bind_eq_ok h
    obtain ⟨rest, hrest, -⟩ := exists_of_bind_eq_ok h
    exact List.forall_mem_cons.2 ⟨⟨a, ha⟩, ih hrest⟩

/-- **Where an array is read, each of its items is.** -/
theorem exists_of_list_eq_ok {decode : Decoder α} {n : Node} {l : List α}
    (h : list decode o n = .ok l) : ∃ o', ∀ x ∈ n.items, ∃ a, decode o' x = .ok a := by
  cases n with
  | array ns tail =>
    obtain ⟨inside, -, h⟩ := exists_of_bind_eq_ok h
    obtain ⟨vs, hvs, -⟩ := exists_of_bind_eq_ok h
    exact ⟨inside, exists_of_eachItem_eq_ok hvs⟩
  | _ => exact ⟨o, fun _ hx ↦ absurd hx List.not_mem_nil⟩

/-! ### Records in both forms -/

/-- **A record of what is expected**: an object that lists it, or an array of it in order. -/
def RecordOf (expected : List Expected) (n : Node) : Prop :=
  (∃ ms, n = .object ms .closed ∧ Lists expected ms) ∨
    ∃ ns, n = .array ns .closed ∧ List.Forall₂ Expected.Accepts expected ns

namespace Record

variable {r : Record α} {o' : Origin} {ms : List (StringToken × Node)} {ns : List Node} {a : α}

theorem decode_items (ho : o.enter = .ok o') {taken : Nat}
    (h : r.ofItems o' ns .closed = .ok (a, taken, [])) :
    r.decode o (.array ns .closed) = .ok a := by
  have hclose : closeList o' taken [] .closed = .ok () := by cases o' <;> rfl
  rw [decode, ho]
  simp only [bind, Except.bind, h, hclose]

theorem exists_of_decode_items (ho : o.enter = .ok o')
    (h : r.decode o (.array ns .closed) = .ok a) :
    ∃ taken rest, r.ofItems o' ns .closed = .ok (a, taken, rest) := by
  obtain ⟨inside, hinside, h⟩ := exists_of_bind_eq_ok h
  obtain rfl : o' = inside := Except.ok.inj (ho.symm.trans hinside)
  obtain ⟨⟨v, taken, rest⟩, hitems, h⟩ := exists_of_bind_eq_ok h
  obtain ⟨-, -, h⟩ := exists_of_bind_eq_ok h
  obtain rfl : v = a := Except.ok.inj h
  exact ⟨taken, rest, hitems⟩

end Record

end TraceReconciler.Json
