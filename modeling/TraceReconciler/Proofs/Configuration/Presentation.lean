import TraceReconciler.Proofs.Configuration.RoundTrip
import TraceReconciler.Proofs.Json.Presentation

/-!
# The texts that present a configuration

A configuration is presented by many texts. Blanks may stand between any two tokens. The slots may
come in any order and under names that are escaped in any way, and members with other names may
stand among them, whatever is in those. A slot that is absent may be `null` or missing, and so may
the probes be missing if there are none. A set is an array of its members in any order, some of them
perhaps more than once, and each probe in it is an object in any order of its own. Only numbers have
one spelling, which is their digits; where a number is a key, these are a text like any other.

What presents a value is said first, as a relation between values and trees that does not mention
the decoders (`Configuration.PresentedBy`). **Not every text that presents a configuration is
read.** Two more things have to be so of it (`Configuration.Legible`):

* every key is a name, also the keys of the members that nobody asked for, in the object of the
  configuration and in those of its probes. An escape of half a pair of units is none, so
  `{"\ud800":null}` is refused, while the same key further inside, in what is skipped, does no harm;
* the keys of the thresholds, which are read as numbers and not as names, are written without
  escapes. So `{"sysSendmsg":{"\u0037":8}}` is refused, although its key is the name `7`.

**Of the texts that present a configuration just those are read in which both are so**, each as this
configuration and as no other (`Configuration.ofText_of_presentedBy`), and both are needed
(`Configuration.exists_presentedBy_refused`). Every configuration presents itself by the text that
is written for it (`Configuration.text_presents`).
-/

namespace TraceReconciler

open Json

variable {o o' : Origin}

/-! ### What presents a value -/

/-- A tree that is a number. -/
def IsNat (k : Nat) (n : Node) : Prop := n = .number (.ofNat k)

/-- A tree that is a text, in any of its spellings. -/
def IsText (s : String) (n : Node) : Prop := ∃ t : StringToken, n = .string t ∧ t.Denotes s

/-- **An array of the members of a set**, in any order and with any repetitions. -/
def SortedSet.PresentedBy {α : Type} [SortKey α] (present : α → Node → Prop) (s : SortedSet α)
    (n : Node) : Prop :=
  ∃ l ns, (∀ a, a ∈ l ↔ a ∈ s) ∧ List.Forall₂ present l ns ∧ n = .array ns .closed

/-- A set of processes as an array of numbers. -/
def PidSet.PresentedBy (s : PidSet) (n : Node) : Prop :=
  SortedSet.PresentedBy (fun p ↦ IsNat p.toNat) s n

/-- A threshold as a member whose key is the number of the process, in any spelling of the key. -/
def IsThreshold (e : Pid × Threshold) (m : StringToken × Node) : Prop :=
  m.1.Denotes (String.ofList (Text.digits e.1.toNat)) ∧ IsNat e.2.toNat m.2

/-- **Thresholds as an object**, in any order. -/
def ThresholdsPresentedBy (m : PidMap Threshold) (n : Node) : Prop :=
  ∃ l ms, (∀ p t, (p, t) ∈ l ↔ m.get? p = some t) ∧ List.Forall₂ IsThreshold l ms ∧
    n = .object ms .closed

/-- What is expected of the object of a probe. -/
def Probe.expected (p : Probe) : List Expected :=
  [⟨"functionName", IsText p.site.function, False⟩, ⟨"targetModule", IsText p.site.module, False⟩,
    ⟨"offset", IsNat p.site.offset.toNat, False⟩, ⟨"pid", IsNat p.pid.toNat, False⟩]

/-- **A probe as an object of its members.** -/
def Probe.PresentedBy (p : Probe) (n : Node) : Prop :=
  ∃ ms, n = .object ms .closed ∧ Gives p.expected ms

/-- A slot that may be absent. -/
def SlotPresentedBy {α : Type} (present : α → Node → Prop) : Option α → Node → Prop
  | none, n => n = .null
  | some a, n => present a n

namespace Configuration

variable (c : Configuration)

/-- What is expected of the object of a configuration. -/
def expected : List Expected :=
  [⟨"vfsWrite", SlotPresentedBy PidSet.PresentedBy c.vfsWrite, c.vfsWrite = none⟩,
    ⟨"sysSendmsg", SlotPresentedBy ThresholdsPresentedBy c.sendMessage, c.sendMessage = none⟩,
    ⟨"uprobes", SortedSet.PresentedBy Probe.PresentedBy c.probes, c.probes = ∅⟩,
    ⟨"jniReferences", SlotPresentedBy PidSet.PresentedBy c.jniReferences, c.jniReferences = none⟩,
    ⟨"sysSigquit", SlotPresentedBy PidSet.PresentedBy c.sigquit, c.sigquit = none⟩,
    ⟨"gc", SlotPresentedBy PidSet.PresentedBy c.gc, c.gc = none⟩,
    ⟨"sysFdTracking", SlotPresentedBy PidSet.PresentedBy c.openFiles, c.openFiles = none⟩]

/-- **A configuration as an object of its slots.** -/
def PresentedBy (n : Node) : Prop := ∃ ms, n = .object ms .closed ∧ Gives c.expected ms

/-- **What has to be so for a tree to be read**, beyond what it presents. -/
structure Legible (n : Node) : Prop where
  /-- Every key of the object is a name, -/
  named : Named n.members
  /-- and so is every key of the objects of its probes. -/
  namedProbes : ∀ x ∈ valuesOf "uprobes" n.members, ∀ y ∈ x.items, Named y.members
  /-- The keys of its thresholds are written without escapes. -/
  plainKeys : ∀ x ∈ valuesOf "sysSendmsg" n.members, ∀ m ∈ x.members, m.1.IsPlain

end Configuration

/-! ### What is written presents what was written -/

theorem isNat_node (k : Nat) : IsNat k (Value.nat k).node := rfl

theorem isText_node (s : String) : IsText s (Value.string s).node :=
  ⟨.ofString s, rfl, StringToken.denotes_ofString s⟩

theorem forall₂_nodes {α : Type} {present : α → Node → Prop} {write : α → Value}
    (h : ∀ a, present a (write a).node) (l : List α) :
    List.Forall₂ present l (Value.nodes (l.map write)) := by
  induction l with
  | nil => exact .nil
  | cons a l ih => exact .cons (h a) ih

/-- A list of just the members of a set presents it. -/
theorem SortedSet.presentedBy_of_mem_iff {α : Type} [SortKey α] {present : α → Node → Prop}
    {write : α → Value} (h : ∀ a, present a (write a).node) {s : SortedSet α} {l : List α}
    (hl : ∀ a, a ∈ l ↔ a ∈ s) : s.PresentedBy present (Value.array (l.map write)).node :=
  ⟨l, Value.nodes (l.map write), hl, forall₂_nodes h l, rfl⟩

theorem PidSet.presentedBy_of_mem_iff {s : PidSet} {l : List Pid} (hl : ∀ p, p ∈ l ↔ p ∈ s) :
    PidSet.PresentedBy s (Value.array (l.map fun p ↦ .nat p.toNat)).node :=
  SortedSet.presentedBy_of_mem_iff (fun p : Pid ↦ isNat_node p.toNat) hl

theorem PidSet.presentedBy_toJson (s : PidSet) : PidSet.PresentedBy s (PidSet.toJson s).node :=
  PidSet.presentedBy_of_mem_iff fun _ ↦ SortedSet.mem_toList

/-- The members that are written for thresholds. -/
def thresholdMembers (l : List (Pid × Threshold)) : List (StringToken × Node) :=
  Value.memberNodes (l.map fun e ↦ (String.ofList (Text.digits e.1.toNat), .nat e.2.toNat))

theorem forall₂_thresholdMembers (l : List (Pid × Threshold)) :
    List.Forall₂ IsThreshold l (thresholdMembers l) := by
  induction l with
  | nil => exact .nil
  | cons e l ih => exact .cons ⟨StringToken.denotes_ofString _, isNat_node _⟩ ih

theorem thresholdsPresentedBy_toJson (m : PidMap Threshold) :
    ThresholdsPresentedBy m (thresholdsToJson m).node :=
  ⟨m.entries, _, fun _ _ ↦ SortedMap.get?_eq_some_iff.symm, forall₂_thresholdMembers m.entries, rfl⟩

theorem Probe.presentedBy_toJson (p : Probe) : p.PresentedBy p.toJson.node := by
  refine ⟨_, by rw [toJson, Value.node], ?_, ?_, ?_⟩
  · simp [Value.memberNodes, expected]
  · simp [Value.memberNodes, expected, isNat_node, isText_node]
  · simp [Value.memberNodes, expected]

theorem ProbeSet.presentedBy_toJson (s : ProbeSet) :
    SortedSet.PresentedBy Probe.PresentedBy s (ProbeSet.toJson s).node :=
  SortedSet.presentedBy_of_mem_iff Probe.presentedBy_toJson fun _ ↦ SortedSet.mem_toList

theorem slotPresentedBy_absentOr {α : Type} {present : α → Node → Prop} {write : α → Value}
    (h : ∀ a, present a (write a).node) (slot : Option α) :
    SlotPresentedBy present slot (absentOr write slot).node := by
  cases slot with
  | none => rfl
  | some a => exact h a

theorem Configuration.presentedBy_toJson (c : Configuration) : c.PresentedBy c.toJson.node := by
  have hpids := slotPresentedBy_absentOr PidSet.presentedBy_toJson
  have hthresholds := slotPresentedBy_absentOr thresholdsPresentedBy_toJson
  refine ⟨_, by rw [toJson, Value.node], ?_, ?_, ?_⟩
  · simp [Value.memberNodes, expected]
  · simp [Value.memberNodes, expected, hpids, hthresholds, ProbeSet.presentedBy_toJson]
  · simp [Value.memberNodes, expected]

/-! ### Reading it -/

theorem IsText.string_eq {s : String} {n : Node} (h : IsText s n) : string o n = .ok s := by
  obtain ⟨t, rfl, ht⟩ := h
  exact ht.value_eq

theorem IsNat.word32_eq {p : Pid} {n : Node} (h : IsNat p.toNat n) : word32 o n = .ok p := by
  rw [h]
  exact restores_word32 o p

theorem IsNat.word64_eq {k : UInt64} {n : Node} (h : IsNat k.toNat n) : word64 o n = .ok k := by
  rw [h]
  exact restores_word64 o k

theorem eachItem_of_forall₂ {α : Type} {decode : Decoder α} {present : α → Node → Prop}
    {l : List α} {ns : List Node} (h : List.Forall₂ present l ns)
    (hdecode : ∀ a, ∀ n ∈ ns, present a n → decode o n = .ok a) : eachItem decode o ns = .ok l := by
  induction h with
  | nil => rfl
  | cons ha _ ih =>
    rw [eachItem, hdecode _ _ List.mem_cons_self ha,
      ih fun a n hn ↦ hdecode a n (List.mem_cons_of_mem _ hn)]
    rfl

/-- **A set is read from an array of its members**, if each member is read. -/
theorem SortedSet.PresentedBy.decode_eq {α : Type} [SortKey α] {present : α → Node → Prop}
    {decode : Decoder α} {s : SortedSet α} {n : Node} (h : SortedSet.PresentedBy present s n)
    (hskip : n.skip = .ok ()) (henter : o.enter = .ok o')
    (hdecode : ∀ a, ∀ x ∈ n.items, x.skip = .ok () → present a x → decode o' x = .ok a) :
    SortedSet.ofList <$> list decode o n = .ok s := by
  obtain ⟨l, ns, hl, hns, rfl⟩ := h
  have hitems : eachItem decode o' ns = .ok l := eachItem_of_forall₂ hns fun a x hx ↦
    hdecode a x hx (Node.skip_array_iff.1 hskip x hx)
  have hs : SortedSet.ofList l = s := SortedSet.ext_mem fun a ↦ SortedSet.mem_ofList.trans (hl a)
  rw [list, henter, ← hs]
  simp only [bind, Except.bind, hitems]
  rfl

theorem PidSet.PresentedBy.decode_eq {s : PidSet} {n : Node} (h : PidSet.PresentedBy s n)
    (hskip : n.skip = .ok ()) (henter : o.enter = .ok o') : PidSet.decode o n = .ok s :=
  SortedSet.PresentedBy.decode_eq h hskip henter fun _ _ _ _ ↦ IsNat.word32_eq

/-- Without escapes in their keys, thresholds are presented as they are written. -/
theorem eq_thresholdMembers {l : List (Pid × Threshold)} {ms : List (StringToken × Node)}
    (h : List.Forall₂ IsThreshold l ms) (hplain : ∀ m ∈ ms, m.1.IsPlain) :
    ms = thresholdMembers l := by
  induction h with
  | nil => rfl
  | @cons e m l ms hm _ ih =>
    obtain ⟨hkey, hvalue⟩ := hm
    rw [List.forall_mem_cons] at hplain
    have hwritten : m.1 = .ofString (String.ofList (Text.digits e.1.toNat)) := by
      rw [hkey.eq_of_isPlain hplain.1, ofString_digits, String.toList_ofList]
    have hm : m = (.ofString (String.ofList (Text.digits e.1.toNat)), (Value.nat e.2.toNat).node) :=
      Prod.ext hwritten hvalue
    rw [hm, ih hplain.2]
    rfl

/-- **Thresholds are read from their entries**, of which each key has one. -/
theorem ThresholdsPresentedBy.decode_eq {m : PidMap Threshold} {n : Node} {room : Nat}
    (h : ThresholdsPresentedBy m n) (hplain : ∀ x ∈ n.members, x.1.IsPlain) :
    decodeThresholds (.live (room + 1)) n = .ok m := by
  obtain ⟨l, ms, hl, hms, rfl⟩ := h
  obtain rfl := eq_thresholdMembers hms hplain
  have hm : SortedMap.ofList l = m := SortedMap.ofList_eq hl
  have hread := (restores_word64 (.live room)).wordMap l
  rw [Value.node] at hread
  rw [decodeThresholds, thresholdMembers, hread]
  exact congrArg Except.ok hm

namespace Probe

/-- The members of a probe with the fields that they are read as. -/
def table (p : Probe) : List (Expected × ProbeField) :=
  p.expected.zip [.function p.site.function, .module p.site.module, .offset p.site.offset,
    .pid p.pid]

theorem meets_of_mem_table (p : Probe) :
    ∀ x ∈ p.table, Meets ProbeField.named? o x.1 x.2 := by
  simp only [table, expected, List.zip_cons_cons, List.zip_nil_right, List.forall_mem_cons]
  exact ⟨.of_decode rfl fun _ _ ↦ IsText.string_eq, .of_decode rfl fun _ _ ↦ IsText.string_eq,
    .of_decode rfl fun _ _ ↦ IsNat.word64_eq, .of_decode rfl fun _ _ ↦ IsNat.word32_eq,
    fun _ hx ↦ absurd hx List.not_mem_nil⟩

theorem named?_eq_none {p : Probe} {name : String} (h : ∀ x ∈ p.table, x.1.name ≠ name) :
    ProbeField.named? name = none := by
  simp only [table, expected, List.zip_cons_cons, List.zip_nil_right, List.forall_mem_cons] at h
  simp [ProbeField.named?, eq_comm (a := name), h]

/-- **A probe is read from its members.** -/
theorem PresentedBy.decode_eq {p : Probe} {n : Node} (h : p.PresentedBy n)
    (hnamed : Named n.members) (hskip : n.skip = .ok ()) (henter : o.enter = .ok o') :
    Probe.decode o n = .ok p := by
  obtain ⟨ms, rfl, h⟩ := h
  have hmembers : ∀ m ∈ ms, m.2.skip = .ok () := fun m hm ↦ (Node.skip_object_iff.1 hskip m hm).2
  have hlists : Lists (p.table.map Prod.fst) ms := ⟨h, hnamed⟩
  obtain ⟨vs, hvs, hfound⟩ := hlists.exists_fields_eq (o := o') hmembers p.meets_of_mem_table
    fun _ ↦ named?_eq_none
  have hfunction := hfound.findSome?_eq (f := ProbeField.function?) (i := 0) rfl rfl rfl id
  have hmodule := hfound.findSome?_eq (f := ProbeField.module?) (i := 1) rfl rfl rfl id
  have hoffset := hfound.findSome?_eq (f := ProbeField.offset?) (i := 2) rfl rfl rfl id
  have hpid := hfound.findSome?_eq (f := ProbeField.pid?) (i := 3) rfl rfl rfl id
  rw [Probe.decode, Record.decode, henter]
  show (fields ProbeField.named? o' .closed [] ms >>= _) = .ok p
  rw [hvs]
  simp only [bind, Except.bind, hfunction, hmodule, hoffset, hpid]
  rfl

end Probe

theorem optional_of_ne_null {α : Type} {decode : Decoder α} {n : Node} (h : n ≠ .null) :
    optional decode o n = some <$> decode o n := by
  rw [Json.optional]
  exact h

/-- **A slot is read from `null` or from what is in it.** -/
theorem SlotPresentedBy.optional_eq {α : Type} {present : α → Node → Prop} {decode : Decoder α}
    {slot : Option α} {n : Node} (h : SlotPresentedBy present slot n)
    (hnull : ∀ a, ¬ present a .null) (hdecode : ∀ a, present a n → decode o n = .ok a) :
    optional decode o n = .ok slot := by
  cases slot with
  | none =>
    obtain rfl : n = .null := h
    rfl
  | some a =>
    have hne : n ≠ .null := fun hn ↦ hnull a (hn ▸ h)
    rw [optional_of_ne_null hne, hdecode a h]
    rfl

namespace Configuration

variable (c : Configuration)

/-- What has to be so of the value of a member with a name. -/
def LegibleAs (name : String) (x : Node) : Prop :=
  (name = "uprobes" → ∀ y ∈ x.items, Named y.members) ∧
    (name = "sysSendmsg" → ∀ m ∈ x.members, m.1.IsPlain)

theorem Legible.legibleAs {n : Node} (h : Legible n) (name : String) :
    ∀ x ∈ valuesOf name n.members, LegibleAs name x := fun x hx ↦
  ⟨fun hname ↦ h.namedProbes x (hname ▸ hx), fun hname ↦ h.plainKeys x (hname ▸ hx)⟩

/-- What is expected of an object that can be read. -/
def legibly : List Expected := c.expected.map fun e ↦ e.narrow (LegibleAs e.name)

/-- The members of a configuration with the fields that they are read as. -/
def table : List (Expected × ConfigurationField) :=
  c.legibly.zip [.vfsWrite c.vfsWrite, .sendMessage c.sendMessage, .probes c.probes,
    .jniReferences c.jniReferences, .sigquit c.sigquit, .gc c.gc, .openFiles c.openFiles]

theorem meets_of_mem_table {room : Nat} :
    ∀ x ∈ c.table, Meets ConfigurationField.named? (.live (room + 2)) x.1 x.2 := by
  have hpids {name : String} (s : Option PidSet) (n : Node) (hskip : n.skip = .ok ())
      (h : SlotPresentedBy PidSet.PresentedBy s n ∧ LegibleAs name n) :
      optional PidSet.decode (.live (room + 2)) n = .ok s :=
    h.1.optional_eq nofun fun _ h ↦ h.decode_eq hskip rfl
  simp only [table, legibly, expected, List.map_cons, List.map_nil, List.zip_cons_cons,
    List.zip_nil_right, List.forall_mem_cons]
  refine ⟨.of_decode rfl (hpids _), .of_decode rfl fun n _ h ↦ ?_,
    .of_decode rfl fun n hskip h ↦ ?_, .of_decode rfl (hpids _), .of_decode rfl (hpids _),
    .of_decode rfl (hpids _), .of_decode rfl (hpids _), fun _ hx ↦ absurd hx List.not_mem_nil⟩
  · obtain ⟨hpresented, -, hplain⟩ := h
    exact hpresented.optional_eq nofun fun _ h ↦ h.decode_eq (hplain rfl)
  · obtain ⟨hpresented, hnamed, -⟩ := h
    exact hpresented.decode_eq hskip rfl fun _ y hy hskip h ↦
      h.decode_eq (hnamed rfl y hy) hskip rfl

/-- Where all names of fields are listed, any other one is none. -/
theorem named?_eq_none {table : List (Expected × ConfigurationField)} {name : String}
    (htable : table.map (fun x ↦ x.1.name) = ["vfsWrite", "sysSendmsg", "uprobes", "jniReferences",
      "sysSigquit", "gc", "sysFdTracking"]) (h : ∀ x ∈ table, x.1.name ≠ name) :
    ConfigurationField.named? name = none := by
  have hnames : ∀ field ∈ table.map (fun x ↦ x.1.name), field ≠ name := List.forall_mem_map.2 h
  simp only [htable, List.forall_mem_cons] at hnames
  simp [ConfigurationField.named?, eq_comm (a := name), hnames]

variable {c}

open ConfigurationField in
/-- **A configuration is built of the fields that are found**, if one that may be missing is what it
is without its field. -/
theorem ofFields_of_found {a b d e f g h : Expected} {vs : List ConfigurationField}
    (hfound : Found ([a, b, d, e, f, g, h].zip [.vfsWrite c.vfsWrite, .sendMessage c.sendMessage,
      .probes c.probes, .jniReferences c.jniReferences, .sigquit c.sigquit, .gc c.gc,
      .openFiles c.openFiles]) vs)
    (ha : a.MayLack → c.vfsWrite = none) (hb : b.MayLack → c.sendMessage = none)
    (hd : d.MayLack → c.probes = ∅) (he : e.MayLack → c.jniReferences = none)
    (hf : f.MayLack → c.sigquit = none) (hg : g.MayLack → c.gc = none)
    (hh : h.MayLack → c.openFiles = none) : ofFields vs = c := by
  have hvfs := hfound.findSome?_getD (f := vfsWrite?) (i := 0) rfl rfl rfl ha
  have hsend := hfound.findSome?_getD (f := sendMessage?) (i := 1) rfl rfl rfl hb
  have hprobes := hfound.findSome?_getD (f := probes?) (i := 2) rfl rfl rfl hd
  have hjni := hfound.findSome?_getD (f := jniReferences?) (i := 3) rfl rfl rfl he
  have hsigquit := hfound.findSome?_getD (f := sigquit?) (i := 4) rfl rfl rfl hf
  have hgc := hfound.findSome?_getD (f := gc?) (i := 5) rfl rfl rfl hg
  have hfiles := hfound.findSome?_getD (f := openFiles?) (i := 6) rfl rfl rfl hh
  rw [ofFields, hvfs, hsend, hprobes, hjni, hsigquit, hgc, hfiles]

/-- **A configuration is read from its slots**, if they are legible. -/
theorem PresentedBy.decode_eq {n : Node} {room : Nat} (h : c.PresentedBy n) (hlegible : Legible n)
    (hskip : n.skip = .ok ()) : Configuration.decode (.live (room + 3)) n = .ok c := by
  obtain ⟨ms, rfl, h⟩ := h
  have hmembers : ∀ m ∈ ms, m.2.skip = .ok () := fun m hm ↦ (Node.skip_object_iff.1 hskip m hm).2
  have hlists : Lists (c.table.map Prod.fst) ms := ⟨h.narrow hlegible.legibleAs, hlegible.named⟩
  obtain ⟨vs, hvs, hfound⟩ := hlists.exists_fields_eq (o := .live (room + 2)) hmembers
    c.meets_of_mem_table fun _ ↦ named?_eq_none rfl
  have hfields : ofFields vs = c := ofFields_of_found hfound id id id id id id id
  show (fields ConfigurationField.named? (.live (room + 2)) .closed [] ms >>= _) = .ok c
  rw [hvs, ← hfields]
  rfl

end Configuration

/-! ### What is read is legible -/

/-- **Only an object whose keys are names is read as a probe.** -/
theorem Probe.named_of_decode {n : Node} {p : Probe} (h : Probe.decode o n = .ok p) :
    Named n.members := by
  cases n with
  | object ms tail =>
    obtain ⟨inside, -, h⟩ := exists_of_bind_eq_ok h
    obtain ⟨vs, hvs, -⟩ := exists_of_bind_eq_ok h
    exact named_of_fields_eq_ok hvs
  | _ => exact fun _ hm ↦ absurd hm List.not_mem_nil

namespace Configuration

/-- **Whatever tree is read is legible**, whether it presents a configuration or not. -/
theorem legible_of_decode {n : Node} {room : Nat} {c : Configuration}
    (h : Configuration.decode (.live room) n = .ok c) : Legible n := by
  cases n with
  | object ms tail =>
    obtain ⟨inside, hinside, h⟩ := exists_of_bind_eq_ok h
    obtain ⟨vs, hvs, -⟩ := exists_of_bind_eq_ok h
    obtain ⟨room', rfl⟩ : ∃ room', inside = .live room' := by
      cases room with
      | zero => cases hinside
      | succ room => exact ⟨room, (Except.ok.inj hinside).symm⟩
    have hprobes : ConfigurationField.named? "uprobes" =
      some fun o n ↦ ConfigurationField.probes <$> ProbeSet.decode o n := rfl
    have hthresholds : ConfigurationField.named? "sysSendmsg" =
      some fun o n ↦ ConfigurationField.sendMessage <$> optional decodeThresholds o n := rfl
    refine ⟨named_of_fields_eq_ok hvs, fun x hx y hy ↦ ?_, fun x hx ↦ ?_⟩
    · obtain ⟨v, hv⟩ := exists_of_mem_valuesOf hvs hprobes x hx
      obtain ⟨s, hs, -⟩ := exists_of_map_eq_ok hv
      obtain ⟨l, hl, -⟩ := exists_of_map_eq_ok hs
      obtain ⟨o', hitems⟩ := exists_of_list_eq_ok hl
      obtain ⟨p, hp⟩ := hitems y hy
      exact Probe.named_of_decode hp
    · obtain ⟨v, hv⟩ := exists_of_mem_valuesOf hvs hthresholds x hx
      obtain ⟨slot, hslot, -⟩ := exists_of_map_eq_ok hv
      by_cases hnull : x = .null
      · subst hnull
        exact fun _ hm ↦ absurd hm List.not_mem_nil
      · rw [optional_of_ne_null hnull] at hslot
        obtain ⟨m, hm, -⟩ := exists_of_map_eq_ok hslot
        obtain ⟨l, hl, -⟩ := exists_of_map_eq_ok hm
        exact isPlain_of_wordMap hl
  | _ => exact ⟨nofun, nofun, nofun⟩

variable {c : Configuration}

/-- **The text of a configuration presents it**, legibly. -/
theorem text_presents (c : Configuration) :
    ∃ n, SpelledIn c.text n ∧ c.PresentedBy n ∧ Legible n :=
  ⟨c.toJson.node, c.toJson.spelledIn_text, c.presentedBy_toJson,
    legible_of_decode (restores_configuration 0 c)⟩

/-- **Reading a configuration ignores how it is presented**, and writing it again forgets it, if the
keys of its objects are names and those of its thresholds have no escapes (`Legible`). If one of
them is no name, or has an escape there, the text is refused. -/
theorem ofText_of_presentedBy {text : String} {n : Node} (hspelled : SpelledIn text n)
    (h : c.PresentedBy n) :
    (Legible n → ofText text = .ok c ∧ Configuration.text <$> ofText text = .ok c.text) ∧
      (¬ Legible n → ∃ f, ofText text = .error f) := by
  have hofText : ofText text = Configuration.decode (.live maxDepth) n :=
    hspelled.decodeText_eq Configuration.decode
  constructor
  · intro hlegible
    have hread : ofText text = .ok c := hofText.trans (h.decode_eq hlegible hspelled.skip_eq)
    refine ⟨hread, ?_⟩
    rw [hread]
    rfl
  · intro hillegible
    cases hread : ofText text with
    | error f => exact ⟨f, rfl⟩
    | ok c' => exact absurd (legible_of_decode (hofText.symm.trans hread)) hillegible

/-- Half of a pair in what is skipped, an escaped name, and processes out of order and twice. -/
theorem ofText_of_presentedBy_escaped :
    let c : Configuration :=
      { sendMessage := some (.ofList [(7, 8)]), gc := some (.ofList [3, 7]) }
    let text :=
    " \x7b\"x\":\x7b\"\\ud800\":null\x7d,\n\"\\u0067c\" :[7,3,7],\"sysSendmsg\":\x7b\"7\":8\x7d\x7d"
    ∃ n, SpelledIn text n ∧ c.PresentedBy n ∧ Legible n ∧
      ofText text = .ok c ∧ Configuration.text <$> ofText text = .ok c.text := by
  intro c text
  let half : StringToken := ⟨[.unit 0xd800], .closed⟩
  let key : StringToken := ⟨[.unit 0x67, .plain 'c'], .closed⟩
  let pids : Value := .array [.nat 7, .nat 3, .nat 7]
  let thresholds : Value := .object [("7", .nat 8)]
  let n : Node := .object [(.ofString "x", .object [(half, .null)] .closed), (key, pids.node),
    (.ofString "sysSendmsg", thresholds.node)] .closed
  have hblank : IsBlank [] := isBlank_nil
  have hspace : IsBlank [' '] := Value.isBlank_space
  have hnewline : IsBlank ['\n'] := by decide
  have hkey : SpellsString "\"\\u0067c\"".toList key :=
    .intro (.unit (i := 0) (j := 0) (k := 6) (l := 7) (by decide) (by decide) (by decide)
      (by decide) rfl (.plain (by decide) (by decide) (by decide) .nil))
  have hhalf : SpellsString "\"\\ud800\"".toList half := spellsString_unit (u := 0xd800) (by decide)
  have hspelled : SpelledIn text n :=
    ⟨[' '], _, [], by decide, hspace, .object (.more hblank (spellsString_stringText "x") hblank
      hblank (.object (.last hblank hhalf hblank hblank .null hblank)) hblank
      (.more hnewline hkey hspace hblank pids.spells_compact hblank (.last hblank
        (spellsString_stringText "sysSendmsg") hblank hblank thresholds.spells_compact hblank))),
      hblank⟩
  have hgc : key.Denotes "gc" := ⟨rfl, .unit (.inl (by decide)) (.plain 'c' .nil)⟩
  have hpids : SlotPresentedBy PidSet.PresentedBy c.gc pids.node :=
    PidSet.presentedBy_of_mem_iff (l := [7, 3, 7]) fun p ↦ by
      rw [SortedSet.mem_ofList]
      simp [or_comm, or_left_comm]
  have hthresholds : SlotPresentedBy ThresholdsPresentedBy c.sendMessage thresholds.node :=
    thresholdsPresentedBy_toJson (.ofList [(7, 8)])
  have hpresented : c.PresentedBy n := by
    refine ⟨_, rfl, ?_, ?_, ?_⟩
    · simp [hgc.iff_eq, expected]
    · simpa [hgc.iff_eq, expected] using ⟨hpids, hthresholds⟩
    · simp [hgc.iff_eq, expected, c]
  have hlegible : Legible n := by
    refine ⟨?_, ?_, ?_⟩
    · simp [n, Named, Node.members, hgc.iff_eq]
    · simp [n, Node.members, mem_valuesOf, hgc.iff_eq]
    · have hplain : ∀ m ∈ thresholds.node.members, m.1.IsPlain :=
        List.forall_mem_singleton.2 ⟨['7'], rfl⟩
      simpa [n, Node.members, mem_valuesOf, hgc.iff_eq] using hplain
  exact ⟨n, hspelled, hpresented, hlegible, (ofText_of_presentedBy hspelled hpresented).1 hlegible⟩

/-- **Presenting a configuration is not enough for being read.** The first text has an escape in a
key of the thresholds, and the second one a key that is no name, of a member that nobody asked
for. -/
theorem exists_presentedBy_refused :
    let c : Configuration := { sendMessage := some (.ofList [(7, 8)]) }
    let escaped := "\x7b\"sysSendmsg\":\x7b\"\\u0037\":8\x7d\x7d"
    let nameless := "\x7b\"\\ud800\":null\x7d"
    (∃ n, SpelledIn escaped n ∧ c.PresentedBy n) ∧ ofText escaped = .error .keyNotNumber ∧
      (∃ n, SpelledIn nameless n ∧ PresentedBy ∅ n) ∧ ofText nameless = .error .unpairedEscape := by
  intro c escaped nameless
  let half : StringToken := ⟨[.unit 0xd800], .closed⟩
  let key : StringToken := ⟨[.unit 0x37], .closed⟩
  let entries : Node := .object [(key, .number (.ofNat 8))] .closed
  let n : Node := .object [(.ofString "sysSendmsg", entries)] .closed
  let m : Node := .object [(half, .null)] .closed
  have hblank : IsBlank [] := isBlank_nil
  have hkey : SpellsString "\"\\u0037\"".toList key := spellsString_unit (u := 0x37) (by decide)
  have hhalf : SpellsString "\"\\ud800\"".toList half := spellsString_unit (u := 0xd800) (by decide)
  have hescaped : SpelledIn escaped n :=
    ⟨[], _, [], by decide, hblank, .object (.last hblank (spellsString_stringText "sysSendmsg")
      hblank hblank (.object (.last hblank hkey hblank hblank (Value.nat 8).spells_compact hblank))
      hblank), hblank⟩
  have hnameless : SpelledIn nameless m :=
    ⟨[], _, [], by decide, hblank,
      .object (.last hblank hhalf hblank hblank .null hblank), hblank⟩
  have hseven : key.Denotes "7" := ⟨rfl, .unit (.inl (by decide)) .nil⟩
  have hentries : SlotPresentedBy ThresholdsPresentedBy c.sendMessage entries :=
    ⟨(SortedMap.ofList [(7, 8)]).entries, [(key, .number (.ofNat 8))],
      fun _ _ ↦ SortedMap.get?_eq_some_iff.symm, .cons ⟨hseven, rfl⟩ .nil, rfl⟩
  have hlack : ∀ e ∈ expected ∅, e.MayLack := by
    simp only [expected, List.forall_mem_cons]
    exact ⟨rfl, rfl, rfl, rfl, rfl, rfl, rfl, nofun⟩
  refine ⟨⟨n, hescaped, _, rfl, ?_, ?_, ?_⟩, (hescaped.decodeText_eq _).trans rfl,
    ⟨m, hnameless, _, rfl, ?_, ?_, ?_⟩, (hnameless.decodeText_eq _).trans rfl⟩
  · simp
  · simpa [expected] using hentries
  · simp [expected, c]
  · simp
  · simp [half, StringToken.not_denotes_half]
  · exact fun e he ↦ .inl (hlack e he)

end Configuration

end TraceReconciler
