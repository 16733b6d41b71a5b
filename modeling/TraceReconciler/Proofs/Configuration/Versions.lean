import TraceReconciler.Configuration.Snapshot
import TraceReconciler.Proofs.Configuration.RoundTrip
import TraceReconciler.Proofs.Json.Presentation

/-!
# Snapshots in another version

A snapshot names the version of its format, and a text that names another version is refused. **It
is not always refused as such.** The version is looked at when the whole text has been read as a
snapshot, so what is wrong with the other members wins: a configuration that is missing, or that is
given twice, or whose shape is not the one of this version, is all that the error speaks of
(`Snapshot.not_mismatch_of_missing`).

What an object is that names its version is said first (`Snapshot.Versioned`): the name may be
escaped and stand anywhere, and any other members may stand beside it, whatever is in them. Such an
object is never accepted in another version, and which error it gets is told by the values that it
has for the configuration (`Snapshot.RefusedAs`). **The version is what is reported if and only if
there is just one of them and it can be read** (`Snapshot.ofText_of_versioned`).
-/

namespace TraceReconciler

open Json

namespace Snapshot

/-- **A text is an object that names its version**, once and in whatever spelling of the name. -/
structure Versioned (text : String) (ms : List (StringToken × Node)) (v : UInt32) : Prop where
  /-- The text spells an object with these members. -/
  spelled : SpelledIn text (.object ms .closed)
  /-- The only value that it has for the version is a number. -/
  version : valuesOf "formatVersion" ms = [.number (.ofNat v.toNat)]

/-- **How an object in another version is refused**, by the values that it has for the
configuration. Where the snapshot is called invalid, the message is that of a fault and stops before
` at line L column C` (`Json.Fault.message`). -/
inductive RefusedAs (v : UInt32) : List Node → EngineError → Prop
  | missing : RefusedAs v [] (.invalidSnapshot "missing field `configuration`")
  | unread {x : Node} {xs : List Node} {f : Fault}
      (h : Configuration.decode (.live 126) x = .error f) :
      RefusedAs v (x :: xs) (.invalidSnapshot f.message)
  | mismatch {x : Node} {c : Configuration} (h : Configuration.decode (.live 126) x = .ok c) :
      RefusedAs v [x] (.versionMismatch snapshotVersion v)
  | repeated {x y : Node} {xs : List Node} {c : Configuration}
      (h : Configuration.decode (.live 126) x = .ok c) :
      RefusedAs v (x :: y :: xs) (.invalidSnapshot "duplicate field `configuration`")

variable {text : String} {ms : List (StringToken × Node)} {v : UInt32} {o : Origin}

/-! ### The fields of a snapshot -/

/-- The two names of fields, each with its decoder. -/
theorem named?_cases {name : String} {decode : Decoder Field} (h : Field.named? name = some decode) :
    name = "formatVersion" ∧ decode = (fun o n ↦ Field.formatVersion <$> word32 o n) ∨
      name = "configuration" ∧
        decode = fun o n ↦ Field.configuration <$> Configuration.decode o n := by
  rw [Field.named?] at h
  split_ifs at h with hversion hconfiguration
  · exact .inl ⟨hversion, (Option.some.inj h).symm⟩
  · exact .inr ⟨hconfiguration, (Option.some.inj h).symm⟩

theorem isField_formatVersion_iff {m : StringToken × Node} {w : UInt32} :
    IsField Field.named? o m (.formatVersion w) ↔
      m.1.Denotes "formatVersion" ∧ word32 o m.2 = .ok w := by
  constructor
  · rintro ⟨name, decode, hname, hfield, hdecode⟩
    obtain ⟨rfl, rfl⟩ | ⟨rfl, rfl⟩ := named?_cases hfield
    · obtain ⟨w', hw', heq⟩ := exists_of_map_eq_ok hdecode
      cases heq
      exact ⟨hname, hw'⟩
    · obtain ⟨c, -, heq⟩ := exists_of_map_eq_ok hdecode
      cases heq
  · rintro ⟨hname, hdecode⟩
    exact ⟨"formatVersion", _, hname, rfl, congrArg (Field.formatVersion <$> ·) hdecode⟩

theorem isField_configuration_iff {m : StringToken × Node} {c : Configuration} :
    IsField Field.named? o m (.configuration c) ↔
      m.1.Denotes "configuration" ∧ Configuration.decode o m.2 = .ok c := by
  constructor
  · rintro ⟨name, decode, hname, hfield, hdecode⟩
    obtain ⟨rfl, rfl⟩ | ⟨rfl, rfl⟩ := named?_cases hfield
    · obtain ⟨w, -, heq⟩ := exists_of_map_eq_ok hdecode
      cases heq
    · obtain ⟨c', hc', heq⟩ := exists_of_map_eq_ok hdecode
      cases heq
      exact ⟨hname, hc'⟩
  · rintro ⟨hname, hdecode⟩
    exact ⟨"configuration", _, hname, rfl, congrArg (Field.configuration <$> ·) hdecode⟩

theorem looksUp_formatVersion :
    LooksUp Field.named? o "formatVersion" word32 Field.formatVersion? where
  isField {m v a} h := by
    cases v with
    | formatVersion w =>
      obtain rfl : w = a := Option.some.inj h
      exact isField_formatVersion_iff
    | configuration c => cases h
  exists_eq a := ⟨.formatVersion a, rfl⟩

theorem looksUp_configuration :
    LooksUp Field.named? o "configuration" Configuration.decode Field.configuration? where
  isField {m v a} h := by
    cases v with
    | formatVersion w => cases h
    | configuration c =>
      obtain rfl : c = a := Option.some.inj h
      exact isField_configuration_iff
  exists_eq a := ⟨.configuration a, rfl⟩

/-! ### Members that are read -/

/-- **Members of which each field can be read**, and none comes twice. -/
structure Readable (o : Origin) (ms : List (StringToken × Node)) : Prop where
  named : Named ms
  skip : ∀ m ∈ ms, m.2.skip = .ok ()
  version : ∀ x ∈ valuesOf "formatVersion" ms, ∃ w, word32 o x = .ok w
  versionOnce : (valuesOf "formatVersion" ms).length ≤ 1
  configuration : ∀ x ∈ valuesOf "configuration" ms, ∃ c, Configuration.decode o x = .ok c
  configurationOnce : (valuesOf "configuration" ms).length ≤ 1

theorem Readable.exists_readsPart (h : Readable o ms) :
    ∃ vs seen', ReadsPart Field.named? o [] ms vs seen' := by
  refine Json.exists_readsPart (fun m hm ↦ ?_) ?_ fun _ _ name hname ↦ absurd hname List.not_mem_nil
  · obtain ⟨name, hname⟩ := h.named m hm
    cases hfield : Field.named? name with
    | none => exact .inl ⟨name, hname, hfield, h.skip m hm⟩
    | some decode =>
      obtain ⟨rfl, -⟩ | ⟨rfl, -⟩ := named?_cases hfield
      · obtain ⟨w, hw⟩ := h.version m.2 (mem_valuesOf.2 ⟨m, hm, hname, rfl⟩)
        exact .inr ⟨.formatVersion w, isField_formatVersion_iff.2 ⟨hname, hw⟩⟩
      · obtain ⟨c, hc⟩ := h.configuration m.2 (mem_valuesOf.2 ⟨m, hm, hname, rfl⟩)
        exact .inr ⟨.configuration c, isField_configuration_iff.2 ⟨hname, hc⟩⟩
  · have hversion := pairwise_of_length_valuesOf_le h.versionOnce
    have hconfiguration := pairwise_of_length_valuesOf_le h.configurationOnce
    refine (hversion.and hconfiguration).imp fun honce name hsome hname ↦ ?_
    obtain ⟨decode, hfield⟩ := Option.isSome_iff_exists.1 hsome
    obtain ⟨rfl, -⟩ | ⟨rfl, -⟩ := named?_cases hfield
    · exact honce.1 hname
    · exact honce.2 hname

/-- The members of a versioned object can be read up to where its configurations can. -/
theorem readable_of_append {before rest : List (StringToken × Node)}
    (hversion : valuesOf "formatVersion" (before ++ rest) = [.number (.ofNat v.toNat)])
    (hnamed : Named (before ++ rest)) (hskip : ∀ m ∈ before ++ rest, m.2.skip = .ok ())
    (hread : ∀ x ∈ valuesOf "configuration" before, ∃ c, Configuration.decode o x = .ok c)
    (honce : (valuesOf "configuration" before).length ≤ 1) : Readable o before := by
  rw [valuesOf_append] at hversion
  refine ⟨fun m hm ↦ hnamed m (List.mem_append_left rest hm),
    fun m hm ↦ hskip m (List.mem_append_left rest hm), fun x hx ↦ ?_, ?_, hread, honce⟩
  · have hmem := List.mem_append_left (valuesOf "formatVersion" rest) hx
    rw [hversion, List.mem_singleton] at hmem
    exact ⟨v, hmem ▸ restores_word32 o v⟩
  · have hlength := congrArg List.length hversion
    rw [List.length_append, List.length_singleton] at hlength
    omega

/-- A field after readable members is come to with the names of these. -/
theorem Readable.exists_fields_append {before : List (StringToken × Node)} (h : Readable o before)
    (rest : List (StringToken × Node)) :
    ∃ vs seen', ("configuration" ∈ seen' ↔ valuesOf "configuration" before ≠ []) ∧
      fields Field.named? o .closed [] (before ++ rest) =
        (vs ++ ·) <$> fields Field.named? o .closed seen' rest := by
  obtain ⟨vs, seen', hread⟩ := h.exists_readsPart
  refine ⟨vs, seen', ?_, hread.append .closed rest⟩
  have hsome : (Field.named? "configuration").isSome = true := rfl
  have hnone : valuesOf "configuration" before ≠ [] ↔
      ∃ m ∈ before, m.1.Denotes "configuration" := by
    simp [valuesOf_eq_nil_iff]
  rw [hread.names, or_iff_right List.not_mem_nil, and_iff_right hsome, hnone]

/-! ### What is found first -/

section

variable (hversion : valuesOf "formatVersion" ms = [.number (.ofNat v.toNat)]) (hnamed : Named ms)
  (hskip : ∀ m ∈ ms, m.2.skip = .ok ())

include hversion hnamed hskip

/-- A configuration that cannot be read is come to if it is the first one. -/
theorem fields_of_unread {x : Node} {xs : List Node} {f : Fault}
    (hvalues : valuesOf "configuration" ms = x :: xs) (hx : Configuration.decode o x = .error f) :
    fields Field.named? o .closed [] ms = .error f := by
  obtain ⟨before, t, after, rfl, ht, hbefore, -⟩ := exists_of_valuesOf_eq_cons hvalues
  have hread : Readable o before := readable_of_append hversion hnamed hskip
    (fun x hx ↦ absurd (hbefore ▸ hx) List.not_mem_nil) (hbefore ▸ Nat.zero_le 1)
  obtain ⟨vs, seen', hseen, happend⟩ := hread.exists_fields_append ((t, x) :: after)
  have hnew : "configuration" ∉ seen' := fun hmem ↦ hseen.1 hmem hbefore
  rw [happend, fields_field ht rfl hnew, hx]
  rfl

/-- A second configuration is come to if the first one can be read. -/
theorem fields_of_repeated {x y : Node} {xs : List Node} {c : Configuration}
    (hvalues : valuesOf "configuration" ms = x :: y :: xs)
    (hx : Configuration.decode o x = .ok c) :
    fields Field.named? o .closed [] ms = .error (.duplicateField "configuration") := by
  obtain ⟨before, t, after, rfl, ht, hbefore, hafter⟩ := exists_of_valuesOf_eq_cons hvalues
  obtain ⟨between, u, rest, rfl, hu, hbetween, -⟩ := exists_of_valuesOf_eq_cons hafter
  have hsplit : before ++ (t, x) :: (between ++ (u, y) :: rest) =
      (before ++ (t, x) :: between) ++ (u, y) :: rest := by
    simp only [List.append_assoc, List.cons_append]
  rw [hsplit] at hversion hnamed hskip hvalues ⊢
  have hone : valuesOf "configuration" (before ++ (t, x) :: between) = [x] := by
    rw [valuesOf_append, hbefore, valuesOf_cons ht, hbetween, List.nil_append]
  have hread : Readable o (before ++ (t, x) :: between) :=
    readable_of_append hversion hnamed hskip
      (fun z hz ↦ ⟨c, by rw [hone, List.mem_singleton] at hz; rwa [hz]⟩) (hone ▸ Nat.le_refl 1)
  obtain ⟨vs, seen', hseen, happend⟩ := hread.exists_fields_append ((u, y) :: rest)
  have hmem : "configuration" ∈ seen' := hseen.2 (hone ▸ List.cons_ne_nil x [])
  rw [happend, fields_repeated hu rfl hmem]
  rfl

/-- Where there is at most one configuration, and it can be read, the whole object is. -/
theorem ofMembers_of_readable {c? : Option Configuration}
    (hread : ∀ x ∈ valuesOf "configuration" ms, ∃ c, Configuration.decode o x = .ok c)
    (honce : (valuesOf "configuration" ms).length ≤ 1)
    (hfound : ∀ vs seen', ReadsPart Field.named? o [] ms vs seen' →
      vs.findSome? Field.configuration? = c?) :
    record.ofMembers o ms .closed = Snapshot.mk v <$> required "configuration" c? := by
  have hreadable : Readable o ms := by
    rw [← List.append_nil ms] at hversion hnamed hskip
    exact readable_of_append hversion hnamed hskip hread honce
  obtain ⟨vs, seen', hpart⟩ := hreadable.exists_readsPart
  have hfirst := hpart.findSome?_eq looksUp_formatVersion hversion (restores_word32 o v)
  show (fields Field.named? o .closed [] ms >>= _) = _
  rw [hpart.fields_eq]
  simp only [bind, Except.bind, hfirst, hfound vs seen' hpart]
  cases c? <;> rfl

theorem ofMembers_of_missing (hvalues : valuesOf "configuration" ms = []) :
    record.ofMembers o ms .closed = .error (.missingField "configuration") := by
  rw [ofMembers_of_readable hversion hnamed hskip (hvalues ▸ List.forall_mem_nil _)
    (hvalues ▸ Nat.zero_le 1) fun _ _ h ↦ h.findSome?_eq_none looksUp_configuration hvalues]
  rfl

theorem ofMembers_of_read {x : Node} {c : Configuration}
    (hvalues : valuesOf "configuration" ms = [x]) (hx : Configuration.decode o x = .ok c) :
    record.ofMembers o ms .closed = .ok ⟨v, c⟩ := by
  rw [ofMembers_of_readable hversion hnamed hskip
    (hvalues ▸ List.forall_mem_singleton.2 ⟨c, hx⟩) (hvalues ▸ Nat.le_refl 1)
    fun _ _ h ↦ h.findSome?_eq looksUp_configuration hvalues hx]
  rfl

end

/-! ### What is reported -/

theorem Versioned.ofText_eq (h : Versioned text ms v) : ofText text =
    match record.ofMembers (.live 126) ms .closed with
    | .error f => .error (.invalidSnapshot f.message)
    | .ok s => if s.formatVersion = snapshotVersion then .ok s
      else .error (.versionMismatch snapshotVersion s.formatVersion) := by
  rw [ofText, h.spelled.decodeText_eq]
  rfl

theorem Versioned.ofText_of_fields_error (h : Versioned text ms v) {f : Fault}
    (hfields : fields Field.named? (.live 126) .closed [] ms = .error f) :
    ofText text = .error (.invalidSnapshot f.message) := by
  have hmembers : record.ofMembers (.live 126) ms .closed = .error f := by
    show (fields Field.named? (.live 126) .closed [] ms >>= _) = .error f
    rw [hfields]
    rfl
  rw [h.ofText_eq, hmembers]

/-- An object with a key that is no name is refused for what is found first. -/
theorem Versioned.exists_of_not_named (h : Versioned text ms v) (hnamed : ¬ Named ms) :
    ∃ f : Fault, ofText text = .error (.invalidSnapshot f.message) := by
  cases hfields : fields Field.named? (.live 126) .closed [] ms with
  | error f => exact ⟨f, h.ofText_of_fields_error hfields⟩
  | ok vs => exact absurd (named_of_fields_eq_ok hfields) hnamed

/-- **An object in another version is refused by what it has for the configuration.** -/
theorem Versioned.exists_refusedAs (h : Versioned text ms v) (hv : v ≠ snapshotVersion)
    (hnamed : Named ms) :
    ∃ e, RefusedAs v (valuesOf "configuration" ms) e ∧ ofText text = .error e := by
  have hskip : ∀ m ∈ ms, m.2.skip = .ok () := fun m hm ↦
    (Node.skip_object_iff.1 h.spelled.skip_eq m hm).2
  cases hvalues : valuesOf "configuration" ms with
  | nil =>
    refine ⟨_, .missing, ?_⟩
    rw [h.ofText_eq, ofMembers_of_missing h.version hnamed hskip hvalues]
    rfl
  | cons x xs =>
    cases hx : Configuration.decode (.live 126) x with
    | error f =>
      exact ⟨_, .unread hx,
        h.ofText_of_fields_error (fields_of_unread h.version hnamed hskip hvalues hx)⟩
    | ok c =>
      cases xs with
      | nil =>
        refine ⟨_, .mismatch hx, ?_⟩
        rw [h.ofText_eq, ofMembers_of_read h.version hnamed hskip hvalues hx]
        exact if_neg hv
      | cons y ys =>
        exact ⟨_, .repeated hx,
          h.ofText_of_fields_error (fields_of_repeated h.version hnamed hskip hvalues hx)⟩

/-- **When another version is what is reported.** An object in another version is always refused. If
its keys are names, the values that it has for the configuration tell as what; if one of them is
none, it is refused as an invalid snapshot. So the version is reported if and only if the object has
one configuration, and this can be read as one of the version in use. -/
theorem ofText_of_versioned (h : Versioned text ms v) (hv : v ≠ snapshotVersion) :
    (ofText text = .error (.versionMismatch snapshotVersion v) ↔ Named ms ∧
      ∃ x c, valuesOf "configuration" ms = [x] ∧ Configuration.decode (.live 126) x = .ok c) ∧
      (Named ms → ∃ e, RefusedAs v (valuesOf "configuration" ms) e ∧ ofText text = .error e) ∧
      (¬ Named ms → ∃ f : Fault, ofText text = .error (.invalidSnapshot f.message)) := by
  refine ⟨⟨fun hmismatch ↦ ?_, ?_⟩, h.exists_refusedAs hv, h.exists_of_not_named⟩
  · have hnamed : Named ms := by
      by_contra hno
      obtain ⟨f, hf⟩ := h.exists_of_not_named hno
      cases hmismatch.symm.trans hf
    obtain ⟨e, hrefused, he⟩ := h.exists_refusedAs hv hnamed
    obtain rfl := Except.error.inj (hmismatch.symm.trans he)
    refine ⟨hnamed, ?_⟩
    generalize valuesOf "configuration" ms = values at hrefused
    cases hrefused with
    | mismatch hx => exact ⟨_, _, rfl, hx⟩
  · rintro ⟨hnamed, x, c, hvalues, hx⟩
    obtain ⟨e, hrefused, he⟩ := h.exists_refusedAs hv hnamed
    rw [he]
    rw [hvalues] at hrefused
    cases hrefused with
    | unread hx' => cases hx.symm.trans hx'
    | mismatch hx' => rfl

/-- A configuration in a shape that is not known yet hides its version. -/
theorem ofText_of_versioned_shape :
    let configuration := Value.object [("gc", .string "all")]
    let ms := Value.memberNodes [("formatVersion", .nat 2), ("configuration", configuration)]
    let text := "\x7b\"formatVersion\":2,\"configuration\":\x7b\"gc\":\"all\"\x7d\x7d"
    Versioned text ms 2 ∧ (2 : UInt32) ≠ snapshotVersion ∧
      ofText text = .error (.invalidSnapshot "invalid type: string \"all\", expected a sequence") := by
  intro configuration ms text
  let value := Value.object [("formatVersion", .nat 2), ("configuration", configuration)]
  have htext : value.text = text := by decide
  have hversioned : Versioned text ms 2 := ⟨htext ▸ value.spelledIn_text, rfl⟩
  have hnamed : Named ms := by simp [ms, Named, Value.memberNodes]
  have hne : (2 : UInt32) ≠ snapshotVersion := by decide
  have hdecode : Configuration.decode (.live 126) configuration.node =
      .error (.wrongKind (.string "all") "a sequence") := rfl
  obtain ⟨e, hrefused, he⟩ := (ofText_of_versioned hversioned hne).2.1 hnamed
  have hvalues : valuesOf "configuration" ms = [configuration.node] := rfl
  rw [hvalues] at hrefused
  refine ⟨hversioned, hne, he.trans ?_⟩
  cases hrefused with
  | unread hx =>
    obtain rfl := Except.error.inj (hdecode.symm.trans hx)
    rfl
  | mismatch hx => cases hdecode.symm.trans hx

/-- **An object that says nothing but another version is not refused for its version.** -/
theorem not_mismatch_of_missing :
    let ms := Value.memberNodes [("formatVersion", .nat 2)]
    let text := "\x7b\"formatVersion\":2\x7d"
    Versioned text ms 2 ∧ (2 : UInt32) ≠ snapshotVersion ∧
      ofText text = .error (.invalidSnapshot "missing field `configuration`") ∧
      ofText text ≠ .error (.versionMismatch snapshotVersion 2) := by
  intro ms text
  let value := Value.object [("formatVersion", .nat 2)]
  have htext : value.text = text := by decide
  have hversioned : Versioned text ms 2 := ⟨htext ▸ value.spelledIn_text, rfl⟩
  have hnamed : Named ms := by simp [ms, Named, Value.memberNodes]
  have hne : (2 : UInt32) ≠ snapshotVersion := by decide
  obtain ⟨e, hrefused, he⟩ := hversioned.exists_refusedAs hne hnamed
  have hvalues : valuesOf "configuration" ms = [] := rfl
  rw [hvalues] at hrefused
  cases hrefused
  refine ⟨hversioned, hne, he, ?_⟩
  rw [he]
  simp

end Snapshot

end TraceReconciler
