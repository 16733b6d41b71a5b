import Mathlib.Data.List.Permutation
import TraceReconciler.Proofs.Json.Decoding

/-!
# The order of members does not matter

Writers put the members of an object in one order; readers take them in any. A value is
**reordered** when the members of any of its objects have been permuted, however deep the object
stands (`Reordered`). A decoder that takes every reordering of what was written back to the value
restores in any order (`RestoresInAnyOrder`), and this, too, is kept by the combinators: lists,
records, a name inside its content and a name beside it.

**The detour.** Where a name comes after its content, or between two members of it, what came before
is kept and read when the name is known. So it has to be something that can be kept (`Keepable`),
and its decoder has to read the same from a kept value as from the text. Both are part of the depth
that these statements carry: `depth` brackets may open, or the value has been kept already.
-/

namespace TraceReconciler.Json

variable {α β : Type} {o : Origin} {depth : Nat}

/-! ### Reorderings -/

/-- Two members with the same name and related values. -/
inductive SameName (R : Value → Value → Prop) : String × Value → String × Value → Prop
  | intro (name : String) {x y : Value} (h : R x y) : SameName R (name, x) (name, y)

/-- **A value after the members of any of its objects have been permuted.** -/
inductive Reordered : Value → Value → Prop
  | null : Reordered .null .null
  | boolean (b : Bool) : Reordered (.boolean b) (.boolean b)
  | nat (n : Nat) : Reordered (.nat n) (.nat n)
  | string (s : String) : Reordered (.string s) (.string s)
  | array {l m : List Value} (h : List.Forall₂ Reordered l m) : Reordered (.array l) (.array m)
  | object {l m m' : List (String × Value)} (h : List.Forall₂ (SameName Reordered) l m)
      (hm : m.Perm m') : Reordered (.object l) (.object m')

namespace Reordered

mutual

theorem refl : ∀ v : Value, Reordered v v
  | .null => .null
  | .boolean b => .boolean b
  | .nat n => .nat n
  | .string s => .string s
  | .array l => .array (refl_items l)
  | .object l => .object (refl_members l) (.refl l)

theorem refl_items : ∀ l : List Value, List.Forall₂ Reordered l l
  | [] => .nil
  | x :: l => .cons (refl x) (refl_items l)

theorem refl_members : ∀ l : List (String × Value), List.Forall₂ (SameName Reordered) l l
  | [] => .nil
  | (name, x) :: l => .cons (.intro name (refl x)) (refl_members l)

end

/-- Members in another order. -/
theorem of_perm {l m : List (String × Value)} (h : l.Perm m) : Reordered (.object l) (.object m) :=
  .object (refl_members l) h

theorem exists_of_array {l : List Value} {w : Value} (h : Reordered (.array l) w) :
    ∃ m, w = .array m ∧ List.Forall₂ Reordered l m := by
  cases h with
  | array h => exact ⟨_, rfl, h⟩

theorem exists_of_object {l : List (String × Value)} {w : Value} (h : Reordered (.object l) w) :
    ∃ m m', w = .object m' ∧ List.Forall₂ (SameName Reordered) l m ∧ m.Perm m' := by
  cases h with
  | object h hm => exact ⟨_, _, rfl, h, hm⟩

end Reordered

/-- What holds of all members holds of their counterparts, if it passes from one to the other. -/
theorem forall_mem_of_forall₂ {R : α → β → Prop} {P : α → Prop} {Q : β → Prop} {l : List α}
    {m : List β} (h : List.Forall₂ R l m) (hPQ : ∀ x y, R x y → P x → Q y) (hl : ∀ x ∈ l, P x) :
    ∀ y ∈ m, Q y := by
  induction h with
  | nil => exact List.forall_mem_nil Q
  | cons hxy _ ih =>
    rw [List.forall_mem_cons] at hl ⊢
    exact ⟨hPQ _ _ hxy hl.1, ih hl.2⟩

/-! ### Keeping -/

/-- **A value that can be kept**, in any order of its members, where some brackets may open. -/
def Keepable (depth : Nat) (v : Value) : Prop :=
  ∀ o w, o.Allows depth → Reordered v w → keep o w.node = .ok ()

theorem Keepable.mono {m n : Nat} {v : Value} (h : Keepable m v) (hmn : m ≤ n) : Keepable n v :=
  fun o w ho ↦ h o w (ho.mono hmn)

theorem keepable_null (depth : Nat) : Keepable depth .null := by
  intro o w ho h
  cases h
  cases o <;> rfl

theorem keepable_boolean (depth : Nat) (b : Bool) : Keepable depth (.boolean b) := by
  intro o w ho h
  cases h
  cases o <;> rfl

theorem keepable_nat (depth : Nat) {n : Nat} (hn : n < Text.bound64) : Keepable depth (.nat n) := by
  intro o w ho h
  cases h
  cases o with
  | kept => rfl
  | live room =>
    rw [keep, Value.node, Node.sound, Numeral.value_ofNat hn]
    rfl

theorem keepable_string (depth : Nat) (s : String) : Keepable depth (.string s) := by
  intro o w ho h
  cases h
  cases o with
  | kept => rfl
  | live room =>
    rw [keep, Value.node, Node.sound, StringToken.value_ofString]
    rfl

theorem soundItems_nodes {room : Nat} {l : List Value}
    (h : ∀ x ∈ l, x.node.sound room = .ok ()) :
    Node.soundItems room (Value.nodes l) = .ok () := by
  induction l with
  | nil => rfl
  | cons x l ih =>
    rw [List.forall_mem_cons] at h
    rw [Value.nodes, Node.soundItems, h.1]
    exact ih h.2

theorem soundMembers_memberNodes {room : Nat} {l : List (String × Value)}
    (h : ∀ m ∈ l, m.2.node.sound room = .ok ()) :
    Node.soundMembers room (Value.memberNodes l) = .ok () := by
  induction l with
  | nil => rfl
  | cons m l ih =>
    rw [List.forall_mem_cons] at h
    rw [Value.memberNodes, Node.soundMembers, StringToken.value_ofString, h.1]
    exact ih h.2

/-- What opens a bracket is kept if it is sound wherever there is room for the bracket. -/
theorem keep_of_sound {n : Node} (ho : o.Allows (depth + 1))
    (h : ∀ room, depth ≤ room → n.sound (room + 1) = .ok ()) : keep o n = .ok () := by
  cases o with
  | kept => rfl
  | live room =>
    obtain ⟨room, rfl⟩ : ∃ r, room = r + 1 := Nat.exists_eq_add_of_le' (Nat.le_of_add_left_le ho)
    exact h room (Nat.le_of_succ_le_succ ho)

/-- **An array can be kept if its items can**, and there is room for its bracket. -/
theorem Keepable.array {l : List Value} (h : ∀ x ∈ l, Keepable depth x) :
    Keepable (depth + 1) (.array l) := by
  intro o w ho hw
  obtain ⟨m, rfl, hm⟩ := hw.exists_of_array
  refine keep_of_sound ho fun room hroom ↦ ?_
  have hitems : ∀ y ∈ m, y.node.sound room = .ok () :=
    forall_mem_of_forall₂ hm (fun _ y hxy hx ↦ hx (.live room) y hroom hxy) h
  show (Node.soundItems room (Value.nodes m) >>= fun _ ↦ _) = _
  rw [soundItems_nodes hitems]
  rfl

/-- **An object can be kept if its members can**, in any order. -/
theorem Keepable.object {l : List (String × Value)} (h : ∀ m ∈ l, Keepable depth m.2) :
    Keepable (depth + 1) (.object l) := by
  intro o w ho hw
  obtain ⟨m, m', rfl, hm, hperm⟩ := hw.exists_of_object
  refine keep_of_sound ho fun room hroom ↦ ?_
  have hmembers : ∀ y ∈ m, y.2.node.sound room = .ok () := by
    refine forall_mem_of_forall₂ hm (fun x y hxy hx ↦ ?_) h
    obtain ⟨name, hxy⟩ := hxy
    exact hx (.live room) _ hroom hxy
  show (Node.soundMembers room (Value.memberNodes m') >>= fun _ ↦ _) = _
  rw [soundMembers_memberNodes fun y hy ↦ hmembers y (hperm.mem_iff.2 hy)]
  rfl

/-! ### Restoring in any order -/

/-- **A decoder takes every reordering of what was written back to what it was**, where some
brackets may open. -/
def RestoresInAnyOrder (depth : Nat) (decode : Decoder α) (write : α → Value) : Prop :=
  ∀ o a w, o.Allows depth → Reordered (write a) w → decode o w.node = .ok a

namespace RestoresInAnyOrder

variable {decode : Decoder α} {write : α → Value}

/-- What was written is one of its orders. -/
theorem restores (h : RestoresInAnyOrder depth decode write) (ho : o.Allows depth) :
    Restores decode o write := fun a ↦ h o a (write a) ho (.refl _)

theorem map (h : RestoresInAnyOrder depth decode write) {f : α → β} {g : β → α}
    (hfg : ∀ b, f (g b) = b) :
    RestoresInAnyOrder depth (fun o n ↦ f <$> decode o n) fun b ↦ write (g b) := by
  intro o b w ho hw
  show f <$> decode o w.node = .ok b
  rw [h o (g b) w ho hw]
  exact congrArg Except.ok (hfg b)

end RestoresInAnyOrder

/-! ### Single values and lists -/

theorem inAnyOrder_word32 (depth : Nat) : RestoresInAnyOrder depth word32 fun p ↦ .nat p.toNat := by
  intro o p w _ hw
  cases hw
  exact restores_word32 o p

theorem inAnyOrder_word64 (depth : Nat) : RestoresInAnyOrder depth word64 fun n ↦ .nat n.toNat := by
  intro o n w _ hw
  cases hw
  exact restores_word64 o n

theorem inAnyOrder_string (depth : Nat) : RestoresInAnyOrder depth string .string := by
  intro o s w _ hw
  cases hw
  exact restores_string o s

theorem inAnyOrder_boolean (depth : Nat) : RestoresInAnyOrder depth boolean .boolean := by
  intro o b w _ hw
  cases hw
  exact restores_boolean o b

theorem eachItem_nodes {decode : Decoder α} {write : α → Value}
    (h : RestoresInAnyOrder depth decode write) (ho : o.Allows depth) {l : List α}
    {m : List Value} (hm : List.Forall₂ Reordered (l.map write) m) :
    eachItem decode o (Value.nodes m) = .ok l := by
  induction l generalizing m with
  | nil =>
    cases hm
    rfl
  | cons a l ih =>
    obtain _ | ⟨ha, hm⟩ := hm
    rw [Value.nodes, eachItem, h o a _ ho ha, ih hm]
    rfl

/-- **A list is restored item by item**, if there is room for its bracket. -/
theorem RestoresInAnyOrder.list {decode : Decoder α} {write : α → Value}
    (h : RestoresInAnyOrder depth decode write) :
    RestoresInAnyOrder (depth + 1) (list decode) fun l ↦ .array (l.map write) := by
  intro o l w ho hw
  obtain ⟨m, rfl, hm⟩ := hw.exists_of_array
  obtain ⟨o', henter, ho'⟩ := ho.exists_enter
  rw [Value.node, Json.list, henter]
  simp only [bind, Except.bind, eachItem_nodes h ho' hm]
  rfl

/-! ### Records -/

/-- **A member is read as a field**, in any order of what is inside it. -/
def ReadAsInAnyOrder (field? : String → Option (Decoder β)) (o : Origin) (m : String × Value)
    (v : β) : Prop :=
  ∀ w, Reordered m.2 w → ReadAs field? o (m.1, w) v

theorem ReadAsInAnyOrder.of_restores {field? : String → Option (Decoder β)} {decode : Decoder α}
    {write : α → Value} {wrap : α → β} {name : String}
    (h : RestoresInAnyOrder depth decode write) (ho : o.Allows depth)
    (hname : field? name = some fun o n ↦ wrap <$> decode o n) (a : α) :
    ReadAsInAnyOrder field? o (name, write a) (wrap a) := by
  intro w hw
  exact .of_decode (h o a w ho hw) hname

theorem map_fst_eq {R : Value → Value → Prop} {l m : List (String × Value)}
    (h : List.Forall₂ (SameName R) l m) : l.map Prod.fst = m.map Prod.fst := by
  induction h with
  | nil => rfl
  | cons hxy _ ih =>
    obtain ⟨name, -⟩ := hxy
    rw [List.map_cons, List.map_cons, ih]

theorem readAs_of_reordered {field? : String → Option (Decoder β)} {l m : List (String × Value)}
    {vs : List β} (hread : List.Forall₂ (ReadAsInAnyOrder field? o) l vs)
    (h : List.Forall₂ (SameName Reordered) l m) : List.Forall₂ (ReadAs field? o) m vs := by
  induction h generalizing vs with
  | nil =>
    cases hread
    exact .nil
  | cons hxy _ ih =>
    obtain _ | ⟨hv, hread⟩ := hread
    obtain ⟨name, hxy⟩ := hxy
    exact .cons (hv _ hxy) (ih hread)

/-- **Members are read as fields in any order.** What is found are the same fields, in the order in
which their members stand. -/
theorem fields_reordered {field? : String → Option (Decoder β)} {l m m' : List (String × Value)}
    {vs : List β} (hread : List.Forall₂ (ReadAsInAnyOrder field? o) l vs)
    (hnodup : (l.map Prod.fst).Nodup) (h : List.Forall₂ (SameName Reordered) l m)
    (hm : m.Perm m') :
    ∃ ws, ws.Perm vs ∧ fields field? o .closed [] (Value.memberNodes m') = .ok ws := by
  obtain ⟨ws, hws, hperm⟩ := List.perm_comp_forall₂ hm.symm (readAs_of_reordered hread h)
  have hnodup' : (m'.map Prod.fst).Nodup :=
    (hm.map Prod.fst).nodup_iff.1 (map_fst_eq h ▸ hnodup)
  exact ⟨ws, hperm, fields_memberNodes hws hnodup' fun _ _ ↦ List.not_mem_nil⟩

/-- A field that stands once among some is found among them in any order. -/
theorem findSome?_of_perm {l m : List α} {f : α → Option β} {b : β} (h : m.Perm l)
    (hl : l.filterMap f = [b]) : m.findSome? f = some b := by
  have hm : m.filterMap f = [b] := List.perm_singleton.1 (hl ▸ h.filterMap f)
  rw [← List.head?_filterMap, hm]
  rfl

/-- **A record is restored in any order of its members**, if it can be built of its fields in any
order. -/
theorem Record.decode_reordered {r : Record α} {field? : String → Option (Decoder β)}
    {build : List β → Except Fault α} {l : List (String × Value)} {vs : List β} {a : α} {w : Value}
    (hr : ∀ o members tail,
      r.ofMembers o members tail = fields field? o tail [] members >>= build)
    (hread : ∀ o, o.Allows depth → List.Forall₂ (ReadAsInAnyOrder field? o) l vs)
    (hnodup : (l.map Prod.fst).Nodup) (hbuild : ∀ ws, ws.Perm vs → build ws = .ok a)
    (ho : o.Allows (depth + 1)) (hw : Reordered (.object l) w) : r.decode o w.node = .ok a := by
  obtain ⟨m, m', rfl, hm, hperm⟩ := hw.exists_of_object
  obtain ⟨o', henter, ho'⟩ := ho.exists_enter
  obtain ⟨ws, hws, hfields⟩ := fields_reordered (hread o' ho') hnodup hm hperm
  rw [decode_object r henter, hr, hfields]
  exact hbuild ws hws

/-! ### Names inside their content -/

/-- **A content is read from the members beside its name**, in any order of all of them, if it is
read in any order: what is left when the name has been taken out is the content in some order. -/
theorem tagged_reordered {tag expected name : String} {alternatives : List (String × Decoder α)}
    {content : Decoder α} {l : List (String × Value)} {w : Value} {a : α}
    (hw : Reordered (.object ((tag, .string name) :: l)) w) (ho : o.Allows (depth + 1))
    (hname : alternatives.lookup name = some content) (hkeys : ∀ m ∈ l, m.1 ≠ tag)
    (hkeep : ∀ m ∈ l, Keepable depth m.2)
    (hread : ∀ v, Reordered (.object l) v → content .kept v.node = .ok a) :
    tagged tag expected alternatives o w.node = .ok a := by
  obtain ⟨m, m', rfl, hm, hperm⟩ := hw.exists_of_object
  obtain ⟨o', henter, ho'⟩ := ho.exists_enter
  obtain _ | ⟨⟨_, hx⟩, hm⟩ := hm
  cases hx
  obtain ⟨l₁, l₂, rfl⟩ := List.append_of_mem (hperm.mem_iff.1 List.mem_cons_self)
  have hrest := (hperm.trans List.perm_middle).cons_inv
  have hmembers : ∀ y ∈ l₁ ++ l₂, y.1 ≠ tag ∧ keep o' y.2.node = .ok () := by
    refine fun y hy ↦ forall_mem_of_forall₂ (P := fun x ↦ x.1 ≠ tag ∧ Keepable depth x.2)
      (Q := fun y ↦ y.1 ≠ tag ∧ keep o' y.2.node = .ok ()) hm (fun x y hxy hx ↦ ?_)
      (fun x hx ↦ ⟨hkeys x hx, hkeep x hx⟩) y (hrest.mem_iff.2 hy)
    obtain ⟨_, hxy⟩ := hxy
    exact ⟨hx.1, hx.2 o' _ ho' hxy⟩
  rw [tagged_object henter hname (fun y hy ↦ (hmembers y hy).1) fun y hy ↦ (hmembers y hy).2]
  exact hread _ (.object hm hrest)

/-! ### Names beside their content -/

namespace Adjacent

variable (d : Adjacent α β) {a : α} {b : β} {name : String} {w : Value}

theorem decoder_object {o' : Origin} (henter : o.enter = .ok o') (l : List (String × Value)) :
    d.decoder o (Value.object l).node = d.ofMembers o' .closed .neither (Value.memberNodes l) := by
  rw [Value.node, decoder, henter]
  rfl

theorem ofMembers_cons {tail : ObjectTail} {half : Half α β} {key : String}
    (hkey : key = d.tag ∨ key = d.content) (hnew : d.duplicate? half key = none) (x : Node)
    (ms : List (StringToken × Node)) :
    d.ofMembers o tail half ((.ofString key, x) :: ms) =
      d.take o half key x >>= fun half ↦ d.ofMembers o tail half ms := by
  have hkey' : (key = d.tag || key = d.content) = true := by simpa using hkey
  rw [ofMembers, StringToken.value_ofString]
  simp only [bind, Except.bind, hnew, hkey', if_true]

theorem bareName_string {γ : Type} {alternatives : List (String × γ)} {name : String} {c : γ}
    (hname : alternatives.lookup name = some c) (o : Origin) :
    bareName alternatives o (Value.string name).node = .ok c := by
  rw [Value.node, bareName.eq_1, StringToken.value_ofString]
  show named alternatives name = .ok c
  rw [named, hname]

/-- A name is taken, and what was kept of its content is read now. -/
theorem take_tag (hname : d.alternatives.lookup name = some a) (half : Half α β) :
    d.take o half d.tag (Value.string name).node =
      match half with
      | .content c => Half.both <$> d.decode a .kept c
      | _ => .ok (.tag a) := by
  unfold take
  rw [if_pos rfl, bareName_string hname]
  cases half <;> rfl

/-- A content is read where its name is known, and kept where it is not. -/
theorem take_content (hne : d.content ≠ d.tag) (half : Half α β) (x : Node) :
    d.take o half d.content x =
      match half with
      | .tag a => Half.both <$> d.decode a o x
      | _ => keep o x >>= fun _ ↦ .ok (.content x) := by
  cases half <;> exact if_neg hne

/-- **A name without a content.** -/
theorem decode_alone (hname : d.alternatives.lookup name = some a) (habsent : d.absent a = .ok b)
    (ho : o.Allows 1) (hw : Reordered (.object [(d.tag, .string name)]) w) :
    d.decoder o w.node = .ok b := by
  obtain ⟨m, m', rfl, hm, hperm⟩ := hw.exists_of_object
  obtain ⟨o', henter, -⟩ := ho.exists_enter
  obtain _ | ⟨⟨_, hx⟩, ⟨⟩⟩ := hm
  cases hx
  obtain rfl := List.singleton_perm.1 hperm
  rw [decoder_object d henter, Value.memberNodes, ofMembers_cons d (.inl rfl) rfl, take_tag d hname]
  exact habsent

/-- **A name and its content in either order.** -/
theorem decode_pair (hname : d.alternatives.lookup name = some a) {c : Value}
    (hne : d.content ≠ d.tag) (hkeep : Keepable depth c)
    (hread : ∀ o v, o.Allows depth → Reordered c v → d.decode a o v.node = .ok b)
    (ho : o.Allows (depth + 1))
    (hw : Reordered (.object [(d.tag, .string name), (d.content, c)]) w) :
    d.decoder o w.node = .ok b := by
  obtain ⟨m, m', rfl, hm, hperm⟩ := hw.exists_of_object
  obtain ⟨o', henter, ho'⟩ := ho.exists_enter
  obtain _ | ⟨⟨_, hx⟩, hm⟩ := hm
  obtain _ | ⟨@⟨_, _, v, hc⟩, ⟨⟩⟩ := hm
  cases hx
  rw [decoder_object d henter]
  rcases List.pair_perm.1 hperm with rfl | rfl
  · -- The name comes first, and the content is read where it stands.
    have hnew : d.duplicate? (.tag a) d.content = none := if_neg hne
    rw [Value.memberNodes, ofMembers_cons d (.inl rfl) rfl, take_tag d hname]
    show d.ofMembers o' .closed (.tag a) _ = _
    rw [Value.memberNodes, ofMembers_cons d (.inr rfl) hnew, take_content d hne]
    simp only [hread o' v ho' hc]
    rfl
  · -- The content comes first and is kept until its name is known.
    have hnew : d.duplicate? (.content v.node) d.tag = none := if_neg hne.symm
    rw [Value.memberNodes, ofMembers_cons d (.inr rfl) rfl, take_content d hne]
    simp only [hkeep o' v ho' hc]
    show d.ofMembers o' .closed (.content v.node) _ = _
    rw [Value.memberNodes, ofMembers_cons d (.inl rfl) hnew, take_tag d hname]
    simp only [hread .kept v trivial hc]
    rfl

end Adjacent

/-! ### Whole texts -/

/-- **What was written is read from both texts of every reordering.** -/
def ReadInAnyOrder (decode : Decoder α) (write : α → Value) : Prop :=
  ∀ a w, Reordered (write a) w →
    decodeText decode w.text = .ok a ∧ decodeText decode w.prettyText = .ok a

theorem RestoresInAnyOrder.readInAnyOrder {decode : Decoder α} {write : α → Value}
    (h : RestoresInAnyOrder depth decode write) (hdepth : depth ≤ maxDepth) :
    ReadInAnyOrder decode write := by
  intro a w hw
  have hread : decode (.live maxDepth) w.node = .ok a := h _ a w hdepth hw
  rw [decodeText_valueText, decodeText_valuePrettyText, hread]
  exact ⟨rfl, rfl⟩

end TraceReconciler.Json
