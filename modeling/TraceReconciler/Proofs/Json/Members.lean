import Mathlib.Data.List.Basic
import TraceReconciler.Json.Decoder
import TraceReconciler.Proofs.Json.Spelling

/-!
# Reading the members of an object

A record is read member by member: a member that is no field is skipped, whatever is in it
(`Spells.skip_eq`), a field is read by its decoder, and a field that comes again is refused. Each of
these is one step (`fields_other`, `fields_field`, `fields_repeated`).

**Members are read up to where something is wrong.** If the members before a place can be read, what
is read of the whole object is what is read of them and of what follows (`ReadsPart`,
`exists_readsPart`). Conversely, where an object is read every member has been
(`exists_of_fields_eq_ok`).

What an object says under one name is the list of the values that it has there (`valuesOf`). A field
that has one value is looked up as this value, and a field that has none is not found
(`ReadsPart.findSome?_eq`, `ReadsPart.findSome?_eq_none`).
-/

namespace TraceReconciler.Json

variable {α β : Type} {o : Origin}

/-! ### Skipping what is spelled -/

mutual

/-- **Everything that is spelled can be skipped.** -/
theorem Spells.skip_eq : ∀ {cs : List Char} {n : Node}, Spells cs n → n.skip = .ok ()
  | _, _, .null => rfl
  | _, _, .boolean _ => rfl
  | _, _, .number h => by rw [Node.skip, Numeral.skip, h.flaw_eq]
  | _, _, .string h => by rw [Node.skip, StringToken.skip, h.ending_eq]; rfl
  | _, _, .emptyArray _ => rfl
  | _, _, .array h => by rw [Node.skip, h.skip_eq]; rfl
  | _, _, .emptyObject _ => rfl
  | _, _, .object h => by rw [Node.skip, h.skip_eq]; rfl

theorem SpellsItems.skip_eq : ∀ {cs : List Char} {xs : List Node},
    SpellsItems cs xs → Node.skipItems xs = .ok ()
  | _, _, .last _ h _ => by rw [Node.skipItems, h.skip_eq]; rfl
  | _, _, .more _ h _ hs => by rw [Node.skipItems, h.skip_eq]; exact hs.skip_eq

theorem SpellsMembers.skip_eq : ∀ {cs : List Char} {ms : List (StringToken × Node)},
    SpellsMembers cs ms → Node.skipMembers ms = .ok ()
  | _, _, .last _ hk _ _ h _ => by
    rw [Node.skipMembers, StringToken.skip, hk.ending_eq, h.skip_eq]; rfl
  | _, _, .more _ hk _ _ h _ hs => by
    rw [Node.skipMembers, StringToken.skip, hk.ending_eq, h.skip_eq]; exact hs.skip_eq

end

theorem SpelledIn.skip_eq {text : String} {n : Node} (h : SpelledIn text n) : n.skip = .ok () := by
  obtain ⟨_, _, _, -, -, hspells, -⟩ := h
  exact hspells.skip_eq

namespace Node

theorem skipItems_eq_ok_iff {xs : List Node} :
    skipItems xs = .ok () ↔ ∀ x ∈ xs, x.skip = .ok () := by
  induction xs with
  | nil => simp [skipItems]
  | cons x xs ih =>
    rw [skipItems, List.forall_mem_cons, ← ih]
    cases x.skip <;> simp [bind, Except.bind]

theorem skipMembers_eq_ok_iff {ms : List (StringToken × Node)} :
    skipMembers ms = .ok () ↔ ∀ m ∈ ms, m.1.skip = .ok () ∧ m.2.skip = .ok () := by
  induction ms with
  | nil => simp [skipMembers]
  | cons m ms ih =>
    obtain ⟨t, x⟩ := m
    rw [skipMembers, List.forall_mem_cons, ← ih]
    cases t.skip <;> cases x.skip <;> simp [bind, Except.bind]

/-- An array can be skipped if its items can. -/
theorem skip_array_iff {xs : List Node} :
    (array xs .closed).skip = .ok () ↔ ∀ x ∈ xs, x.skip = .ok () := by
  rw [← skipItems_eq_ok_iff, skip]
  cases skipItems xs <;> simp [bind, Except.bind, ListTail.skip]

/-- An object can be skipped if its keys and the values of its members can. -/
theorem skip_object_iff {ms : List (StringToken × Node)} :
    (object ms .closed).skip = .ok () ↔ ∀ m ∈ ms, m.1.skip = .ok () ∧ m.2.skip = .ok () := by
  rw [← skipMembers_eq_ok_iff, skip]
  cases skipMembers ms <;> simp [bind, Except.bind, ObjectTail.skip]

/-- The items of an array. -/
def items : Node → List Node
  | .array xs _ => xs
  | _ => []

/-- The members of an object. -/
def members : Node → List (StringToken × Node)
  | .object ms _ => ms
  | _ => []

end Node

/-! ### The values under one name -/

/-- Every key is a name. -/
def Named (ms : List (StringToken × Node)) : Prop := ∀ m ∈ ms, ∃ name, m.1.Denotes name

/-- **The values of all members with a name**, in their order. -/
def valuesOf (name : String) (ms : List (StringToken × Node)) : List Node :=
  ms.filterMap fun m ↦ if m.1.value.toOption = some name then some m.2 else none

section

variable {ms ms' : List (StringToken × Node)} {name : String} {x : Node} {xs : List Node}

theorem StringToken.value_toOption_iff {t : StringToken} :
    t.value.toOption = some name ↔ t.Denotes name := by
  rw [← value_eq_ok_iff]
  cases t.value <;> simp [Except.toOption]

theorem mem_valuesOf : x ∈ valuesOf name ms ↔ ∃ m ∈ ms, m.1.Denotes name ∧ m.2 = x := by
  simp [valuesOf, List.mem_filterMap, StringToken.value_toOption_iff]

theorem valuesOf_eq_nil_iff : valuesOf name ms = [] ↔ ∀ m ∈ ms, ¬ m.1.Denotes name := by
  simp [valuesOf, List.filterMap_eq_nil_iff, StringToken.value_toOption_iff]

theorem valuesOf_append : valuesOf name (ms ++ ms') = valuesOf name ms ++ valuesOf name ms' :=
  List.filterMap_append

theorem valuesOf_cons {t : StringToken} (h : t.Denotes name) :
    valuesOf name ((t, x) :: ms) = x :: valuesOf name ms :=
  List.filterMap_cons_some (if_pos (StringToken.value_toOption_iff.2 h))

/-- The members before the first one with a name, this one, and those after it. -/
theorem exists_of_valuesOf_eq_cons (h : valuesOf name ms = x :: xs) :
    ∃ before t after, ms = before ++ (t, x) :: after ∧ t.Denotes name ∧
      valuesOf name before = [] ∧ valuesOf name after = xs := by
  obtain ⟨before, ⟨t, y⟩, after, rfl, hbefore, hy, hafter⟩ := List.filterMap_eq_cons_iff.1 h
  rw [Option.ite_none_right_eq_some, StringToken.value_toOption_iff] at hy
  obtain ⟨ht, heq⟩ := hy
  obtain rfl : y = x := Option.some.inj heq
  exact ⟨before, t, after, rfl, ht, List.filterMap_eq_nil_iff.2 hbefore, hafter⟩

/-- A name under which there is at most one value is given at most once. -/
theorem pairwise_of_length_valuesOf_le (h : (valuesOf name ms).length ≤ 1) :
    ms.Pairwise fun m m' ↦ m.1.Denotes name → ¬ m'.1.Denotes name := by
  induction ms with
  | nil => exact .nil
  | cons m ms ih =>
    have hsplit : valuesOf name ([m] ++ ms) = valuesOf name [m] ++ valuesOf name ms :=
      valuesOf_append
    rw [← List.singleton_append, hsplit, List.length_append] at h
    refine List.pairwise_cons.2 ⟨fun m' hm' hname hname' ↦ ?_, ih (by omega)⟩
    have hfirst : 0 < (valuesOf name [m]).length :=
      List.length_pos_of_mem (mem_valuesOf.2 ⟨m, List.mem_singleton_self m, hname, rfl⟩)
    have hlater : 0 < (valuesOf name ms).length :=
      List.length_pos_of_mem (mem_valuesOf.2 ⟨m', hm', hname', rfl⟩)
    omega

end

/-- A record is read from the members of an object. -/
theorem Record.decode_members {r : Record α} {o' : Origin} {ms : List (StringToken × Node)}
    (ho : o.enter = .ok o') : r.decode o (.object ms .closed) = r.ofMembers o' ms .closed := by
  rw [decode, ho]
  rfl

/-! ### Fields, and other members -/

section

variable {field? : String → Option (Decoder β)}

/-- A member that is a field with a value. -/
def IsField (field? : String → Option (Decoder β)) (o : Origin) (m : StringToken × Node) (v : β) :
    Prop :=
  ∃ name decode, m.1.Denotes name ∧ field? name = some decode ∧ decode o m.2 = .ok v

theorem IsField.exists_isSome {m : StringToken × Node} {v : β} (h : IsField field? o m v) :
    ∃ name, m.1.Denotes name ∧ (field? name).isSome = true := by
  obtain ⟨name, decode, hname, hfield, -⟩ := h
  exact ⟨name, hname, by rw [hfield]; rfl⟩

/-- A member is one field, with one value. -/
theorem IsField.unique {m : StringToken × Node} {v w : β} (h : IsField field? o m v)
    (h' : IsField field? o m w) : v = w := by
  obtain ⟨name, decode, hname, hfield, hv⟩ := h
  obtain ⟨name', decode', hname', hfield', hw⟩ := h'
  obtain rfl := hname.unique hname'
  obtain rfl := Option.some.inj (hfield.symm.trans hfield')
  exact Except.ok.inj (hv.symm.trans hw)

/-- A member that is no field, and nothing that is wrong. -/
def IsOther (field? : String → Option (Decoder β)) (m : StringToken × Node) : Prop :=
  ∃ name, m.1.Denotes name ∧ field? name = none ∧ m.2.skip = .ok ()

/-! ### One member after another -/

section

variable {tail : ObjectTail} {seen : List String} {t : StringToken} {x : Node}
  {ms : List (StringToken × Node)} {name : String}

theorem fields_other (h : IsOther field? (t, x)) :
    fields field? o tail seen ((t, x) :: ms) = fields field? o tail seen ms := by
  obtain ⟨name, hname, hfield, hskip⟩ := h
  rw [fields, hname.value_eq]
  simp only [bind, Except.bind, hfield, hskip]

theorem fields_field {decode : Decoder β} (hname : t.Denotes name)
    (hfield : field? name = some decode) (hnew : name ∉ seen) :
    fields field? o tail seen ((t, x) :: ms) = (do
      let v ← decode o x
      let vs ← fields field? o tail (name :: seen) ms
      .ok (v :: vs)) := by
  have hnew' : seen.contains name = false := by simpa using hnew
  rw [fields, hname.value_eq]
  simp only [bind, Except.bind, hfield, hnew']
  rfl

/-- A field that comes again is refused before its value is looked at. -/
theorem fields_repeated (hname : t.Denotes name) (hfield : (field? name).isSome)
    (hseen : name ∈ seen) :
    fields field? o tail seen ((t, x) :: ms) = .error (.duplicateField name) := by
  obtain ⟨decode, hfield⟩ := Option.isSome_iff_exists.1 hfield
  have hseen' : seen.contains name = true := by simpa using hseen
  rw [fields, hname.value_eq]
  simp only [bind, Except.bind, hfield, hseen', if_true]

/-- What has been read of a first member, if members are read. -/
theorem fields_cons_cases {vs : List β} (h : fields field? o tail seen ((t, x) :: ms) = .ok vs) :
    ∃ name, t.Denotes name ∧
      (field? name = none ∧ fields field? o tail seen ms = .ok vs ∨
        ∃ decode v ws, field? name = some decode ∧ decode o x = .ok v ∧
          fields field? o tail (name :: seen) ms = .ok ws ∧ vs = v :: ws) := by
  rw [fields] at h
  obtain ⟨name, hname, h⟩ := exists_of_bind_eq_ok h
  refine ⟨name, StringToken.value_eq_ok_iff.1 hname, ?_⟩
  cases hfield : field? name with
  | none =>
    simp only [hfield] at h
    obtain ⟨-, -, h⟩ := exists_of_bind_eq_ok h
    exact .inl ⟨rfl, h⟩
  | some decode =>
    simp only [hfield] at h
    by_cases hseen : seen.contains name = true
    · rw [if_pos hseen] at h
      cases h
    · rw [if_neg hseen] at h
      obtain ⟨v, hv, h⟩ := exists_of_bind_eq_ok h
      obtain ⟨ws, hws, h⟩ := exists_of_bind_eq_ok h
      exact .inr ⟨decode, v, ws, rfl, hv, hws, (Except.ok.inj h).symm⟩

end

/-- **What is read of an object has been read member by member**: every key is a name, and each
field has a value, which is found. -/
theorem exists_of_fields_eq_ok {tail : ObjectTail} {seen : List String}
    {ms : List (StringToken × Node)} {vs : List β} (h : fields field? o tail seen ms = .ok vs) :
    ∀ m ∈ ms, ∃ name, m.1.Denotes name ∧
      ∀ decode, field? name = some decode → ∃ v ∈ vs, decode o m.2 = .ok v := by
  induction ms generalizing seen vs with
  | nil => exact fun _ hm ↦ absurd hm List.not_mem_nil
  | cons m ms ih =>
    obtain ⟨t, x⟩ := m
    rw [List.forall_mem_cons]
    obtain ⟨name, hname, ⟨hfield, h⟩ | ⟨decode, v, ws, hfield, hv, hws, rfl⟩⟩ := fields_cons_cases h
    · exact ⟨⟨name, hname, fun decode hdecode ↦ absurd (hfield.symm.trans hdecode) nofun⟩, ih h⟩
    · refine ⟨⟨name, hname, fun decode' hdecode ↦ ⟨v, List.mem_cons_self, ?_⟩⟩, fun m hm ↦ ?_⟩
      · obtain rfl := Option.some.inj (hfield.symm.trans hdecode)
        exact hv
      · obtain ⟨name', hname', hread⟩ := ih hws m hm
        refine ⟨name', hname', fun decode hdecode ↦ ?_⟩
        obtain ⟨w, hw, hdecode⟩ := hread decode hdecode
        exact ⟨w, List.mem_cons_of_mem v hw, hdecode⟩

/-- **Each value under the name of a field is read as this field.** -/
theorem exists_of_mem_valuesOf {tail : ObjectTail} {seen : List String}
    {ms : List (StringToken × Node)} {vs : List β} (h : fields field? o tail seen ms = .ok vs)
    {name : String} {decode : Decoder β} (hfield : field? name = some decode) :
    ∀ x ∈ valuesOf name ms, ∃ v, decode o x = .ok v := by
  intro x hx
  obtain ⟨m, hm, hname, rfl⟩ := mem_valuesOf.1 hx
  obtain ⟨name', hname', hread⟩ := exists_of_fields_eq_ok h m hm
  obtain rfl := hname.unique hname'
  obtain ⟨v, -, hv⟩ := hread decode hfield
  exact ⟨v, hv⟩

/-- Only an object whose keys are names is read. -/
theorem named_of_fields_eq_ok {tail : ObjectTail} {seen : List String}
    {ms : List (StringToken × Node)} {vs : List β} (h : fields field? o tail seen ms = .ok vs) :
    Named ms := by
  intro m hm
  obtain ⟨name, hname, -⟩ := exists_of_fields_eq_ok h m hm
  exact ⟨name, hname⟩

/-! ### Some members, and those after them -/

/-- **What is read of some members**, with those after them still to come. -/
structure ReadsPart (field? : String → Option (Decoder β)) (o : Origin) (seen : List String)
    (ms : List (StringToken × Node)) (vs : List β) (seen' : List String) : Prop where
  /-- Their fields are found, and nothing else is. -/
  found : ∀ v, v ∈ vs ↔ ∃ m ∈ ms, IsField field? o m v
  /-- The names of these fields have been seen, beside those from before. -/
  names : ∀ name, name ∈ seen' ↔ name ∈ seen ∨ (field? name).isSome ∧ ∃ m ∈ ms, m.1.Denotes name
  /-- What is read after them comes behind it. -/
  append : ∀ tail rest, fields field? o tail seen (ms ++ rest) =
    (vs ++ ·) <$> fields field? o tail seen' rest

namespace ReadsPart

variable {seen seen' : List String} {t : StringToken} {x : Node} {ms : List (StringToken × Node)}
  {vs : List β}

theorem nil : ReadsPart field? o seen [] [] seen where
  found := by simp
  names := by simp
  append tail rest := (id_map _).symm

theorem other (h : ReadsPart field? o seen ms vs seen') (hother : IsOther field? (t, x)) :
    ReadsPart field? o seen ((t, x) :: ms) vs seen' := by
  obtain ⟨name, hname, hfield, -⟩ := id hother
  have hno (name' : String) (hsome : (field? name').isSome) : ¬ t.Denotes name' := by
    intro hname'
    obtain rfl := hname.unique hname'
    rw [hfield] at hsome
    cases hsome
  refine ⟨fun v ↦ ?_, fun name' ↦ ?_, fun tail rest ↦ ?_⟩
  · have hnot : ¬ IsField field? o (t, x) v := fun hv ↦
      let ⟨name', hname', hsome⟩ := hv.exists_isSome
      hno name' hsome hname'
    rw [h.found, List.exists_mem_cons_iff, or_iff_right hnot]
  · rw [h.names, List.exists_mem_cons_iff]
    exact or_congr_right (and_congr_right fun hsome ↦ (or_iff_right (hno name' hsome)).symm)
  · rw [List.cons_append, fields_other hother, h.append]

theorem field {name : String} {decode : Decoder β} {v : β}
    (h : ReadsPart field? o (name :: seen) ms vs seen') (hname : t.Denotes name)
    (hfield : field? name = some decode) (hdecode : decode o x = .ok v) (hnew : name ∉ seen) :
    ReadsPart field? o seen ((t, x) :: ms) (v :: vs) seen' := by
  refine ⟨fun w ↦ ?_, fun name' ↦ ?_, fun tail rest ↦ ?_⟩
  · have hv : IsField field? o (t, x) v := ⟨name, decode, hname, hfield, hdecode⟩
    have hone : IsField field? o (t, x) w ↔ w = v := ⟨fun hw ↦ hw.unique hv, fun hw ↦ hw ▸ hv⟩
    rw [List.mem_cons, h.found, List.exists_mem_cons_iff, hone]
  · have hone : name' = name ↔ (field? name').isSome ∧ t.Denotes name' := by
      rw [hname.iff_eq, eq_comm, iff_and_self]
      rintro rfl
      rw [hfield]
      rfl
    rw [h.names, List.mem_cons, List.exists_mem_cons_iff, and_or_left, hone]
    exact or_assoc.trans or_left_comm
  · rw [List.cons_append, fields_field hname hfield hnew, hdecode, h.append]
    cases fields field? o tail seen' rest <;> rfl

theorem fields_eq (h : ReadsPart field? o seen ms vs seen') :
    fields field? o .closed seen ms = .ok vs := by
  have hwhole := h.append .closed []
  rw [List.append_nil] at hwhole
  exact hwhole.trans (congrArg Except.ok (List.append_nil vs))

end ReadsPart

/-- **The fields among other members are read**, and nothing else is found. The names that have
been seen are kept while reading, so the induction is for any of them. -/
theorem exists_readsPart {ms : List (StringToken × Node)}
    (h : ∀ m ∈ ms, IsOther field? m ∨ ∃ v, IsField field? o m v)
    (honce : ms.Pairwise fun m m' ↦
      ∀ name, (field? name).isSome → m.1.Denotes name → ¬ m'.1.Denotes name) :
    ∀ {seen : List String}, (∀ m ∈ ms, ∀ name ∈ seen, ¬ m.1.Denotes name) →
      ∃ vs seen', ReadsPart field? o seen ms vs seen' := by
  induction ms with
  | nil => exact fun _ ↦ ⟨[], _, .nil⟩
  | cons m ms ih =>
    intro seen hseen
    obtain ⟨t, x⟩ := m
    rw [List.forall_mem_cons] at h hseen
    rw [List.pairwise_cons] at honce
    rcases h.1 with hother | ⟨v, name, decode, hname, hfield, hdecode⟩
    · obtain ⟨vs, seen', hread⟩ := ih h.2 honce.2 hseen.2
      exact ⟨vs, seen', hread.other hother⟩
    · have hsome : (field? name).isSome = true := by rw [hfield]; rfl
      have hnew : name ∉ seen := fun hmem ↦ hseen.1 name hmem hname
      have hseen' : ∀ m' ∈ ms, ∀ n ∈ name :: seen, ¬ m'.1.Denotes n := fun m' hm' ↦
        List.forall_mem_cons.2 ⟨honce.1 m' hm' name hsome hname, hseen.2 m' hm'⟩
      obtain ⟨vs, seen', hread⟩ := ih h.2 honce.2 hseen'
      exact ⟨v :: vs, seen', hread.field hname hfield hdecode hnew⟩

end

/-! ### Looking fields up -/

/-- **A function looks up the fields with a name**, which are what a decoder reads there. -/
structure LooksUp (field? : String → Option (Decoder β)) (o : Origin) (name : String)
    (decode : Decoder α) (f : β → Option α) : Prop where
  /-- A member is such a field if it has this name and can be read. -/
  isField {m : StringToken × Node} {v : β} {a : α} (h : f v = some a) :
    IsField field? o m v ↔ m.1.Denotes name ∧ decode o m.2 = .ok a
  /-- Whatever is read is a field. -/
  exists_eq (a : α) : ∃ v, f v = some a

namespace ReadsPart

variable {field? : String → Option (Decoder β)} {name : String} {decode : Decoder α}
  {f : β → Option α} {ms : List (StringToken × Node)} {vs : List β} {seen seen' : List String}

/-- What is looked up is the value of a member with the name. -/
theorem exists_of_findSome? (h : ReadsPart field? o seen ms vs seen')
    (hf : LooksUp field? o name decode f) {a : α} (hfound : vs.findSome? f = some a) :
    ∃ x ∈ valuesOf name ms, decode o x = .ok a := by
  obtain ⟨v, hv, hva⟩ := List.exists_of_findSome?_eq_some hfound
  obtain ⟨m, hm, hfield⟩ := (h.found v).1 hv
  obtain ⟨hname, hdecode⟩ := (hf.isField hva).1 hfield
  exact ⟨m.2, mem_valuesOf.2 ⟨m, hm, hname, rfl⟩, hdecode⟩

/-- **Nothing is looked up under a name without values.** -/
theorem findSome?_eq_none (h : ReadsPart field? o seen ms vs seen')
    (hf : LooksUp field? o name decode f) (hvalues : valuesOf name ms = []) :
    vs.findSome? f = none := by
  rw [Option.eq_none_iff_forall_ne_some]
  intro a hfound
  obtain ⟨x, hx, -⟩ := h.exists_of_findSome? hf hfound
  rw [hvalues] at hx
  exact List.not_mem_nil hx

/-- **The only value under a name is looked up.** -/
theorem findSome?_eq (h : ReadsPart field? o seen ms vs seen')
    (hf : LooksUp field? o name decode f) {x : Node} {a : α} (hvalues : valuesOf name ms = [x])
    (hx : decode o x = .ok a) : vs.findSome? f = some a := by
  cases hfound : vs.findSome? f with
  | some b =>
    obtain ⟨y, hy, hb⟩ := h.exists_of_findSome? hf hfound
    rw [hvalues, List.mem_singleton] at hy
    rw [hy] at hb
    exact congrArg some (Except.ok.inj (hb.symm.trans hx))
  | none =>
    have hmem : x ∈ valuesOf name ms := by rw [hvalues]; exact List.mem_singleton_self x
    obtain ⟨m, hm, hname, rfl⟩ := mem_valuesOf.1 hmem
    obtain ⟨v, hv⟩ := hf.exists_eq a
    have hvs : v ∈ vs := (h.found v).2 ⟨m, hm, (hf.isField hv).2 ⟨hname, hx⟩⟩
    exact absurd (hv.symm.trans (List.findSome?_eq_none_iff.1 hfound v hvs)) nofun

end ReadsPart

end TraceReconciler.Json
