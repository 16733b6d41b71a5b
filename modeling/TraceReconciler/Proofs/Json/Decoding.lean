import Mathlib.Data.List.Forall2
import TraceReconciler.Json.Decoder
import TraceReconciler.Proofs.Json.Layout
import TraceReconciler.Proofs.Json.Members

/-!
# Decoding what was written

A decoder **restores** a way of writing when it takes the tree of every written value back to the
value (`Restores`). The decoders of this library are put together from a few, and so are the
writers; here stands what the single combinators do with the tree of a written value: numbers and
texts, the entries of a map, the members of a record, a name among the members beside it. What can
be read in any order of its members is put together in `TraceReconciler.Proofs.Json.MemberOrder`.

Where the tree comes from is part of the statement: brackets need room to open (`Origin.Allows`), a
value that was kept has been checked already, and the numbers that are keys are read from a live
text only (`Restores.wordMap`).
-/

namespace TraceReconciler.Json

open Text (digits isDigit)

/-- **A decoder takes everything that was written back to what it was.** -/
def Restores {α : Type} (decode : Decoder α) (o : Origin) (write : α → Value) : Prop :=
  ∀ a, decode o (write a).node = .ok a

variable {α β : Type} {o o' : Origin}

/-- There is room for some more brackets. What was kept has been checked already. -/
def Origin.Allows : Origin → Nat → Prop
  | .live room, depth => depth ≤ room
  | .kept, _ => True

theorem Origin.Allows.mono {m n : Nat} (h : o.Allows n) (hmn : m ≤ n) : o.Allows m := by
  cases o with
  | live room => exact Nat.le_trans hmn h
  | kept => trivial

theorem Origin.allows_kept (depth : Nat) : Origin.kept.Allows depth := trivial

theorem Origin.enter_kept : Origin.kept.enter = .ok .kept := rfl

/-- Where there is room for a bracket it can be entered, and one less may open inside. -/
theorem Origin.Allows.exists_enter {depth : Nat} (h : o.Allows (depth + 1)) :
    ∃ o', o.enter = .ok o' ∧ o'.Allows depth := by
  cases o with
  | kept => exact ⟨.kept, enter_kept, allows_kept depth⟩
  | live room =>
    obtain ⟨room, rfl⟩ : ∃ r, room = r + 1 := Nat.exists_eq_add_of_le' (Nat.le_of_add_left_le h)
    exact ⟨.live room, rfl, Nat.le_of_succ_le_succ h⟩

/-! ### Single values -/

theorem natBelow_node {bound n : Nat} (expected : String) (h : n < bound) (h64 : n < Text.bound64) :
    natBelow bound expected o (Value.nat n).node = .ok n := by
  have hvalue := Numeral.value_ofNat h64
  simp only [natBelow, Value.node, hvalue]
  exact if_pos h

theorem restores_word32 (o : Origin) : Restores word32 o fun p ↦ .nat p.toNat := by
  intro p
  have hlt : p.toNat < Text.bound32 := p.toNat_lt
  have h64 : p.toNat < Text.bound64 := Nat.lt_trans hlt (by decide)
  rw [word32, natBelow_node "u32" hlt h64]
  exact congrArg Except.ok UInt32.ofNat_toNat

theorem restores_word64 (o : Origin) : Restores word64 o fun n ↦ .nat n.toNat := by
  intro n
  have hlt : n.toNat < Text.bound64 := n.toNat_lt
  rw [word64, natBelow_node "u64" hlt hlt]
  exact congrArg Except.ok UInt64.ofNat_toNat

theorem restores_string (o : Origin) : Restores string o .string :=
  StringToken.value_ofString

theorem restores_boolean (o : Origin) : Restores boolean o .boolean := fun _ ↦ rfl

/-- What is written in another form is restored in that form. -/
theorem Restores.map {decode : Decoder α} {write : α → Value} (h : Restores decode o write)
    {f : α → β} {g : β → α} (hfg : ∀ b, f (g b) = b) :
    Restores (fun o n ↦ f <$> decode o n) o fun b ↦ write (g b) := by
  intro b
  show f <$> decode o (write (g b)).node = .ok b
  rw [h (g b)]
  exact congrArg Except.ok (hfg b)

/-! ### Maps keyed by numbers -/

/-- The characters of a number stand for themselves in a string. -/
theorem ofChar_of_isDigit {c : Char} (h : isDigit c = true) : Piece.ofChar c = .plain c := by
  have hletter : ¬ HasLetter c := by
    rintro (rfl | rfl | rfl | rfl | rfl | rfl | rfl) <;> exact absurd h (by decide)
  have hcontrol : ¬ c.toNat < 0x20 := by
    have hle : '0' ≤ c := by
      simp only [isDigit, Bool.and_eq_true, decide_eq_true_eq] at h
      exact h.1
    have hle' : '0'.toNat ≤ c.toNat := hle
    have hzero : '0'.toNat = 48 := rfl
    omega
  rw [Piece.ofChar, if_neg hletter, if_neg hcontrol]

theorem plainStart_map_plain (cs : List Char) :
    StringToken.plainStart (cs.map .plain) = (cs, []) := by
  induction cs with
  | nil => rfl
  | cons c cs ih => rw [List.map_cons, StringToken.plainStart, ih]

namespace StringToken

/-- **A string without escapes**: each of its characters stands for itself. -/
def IsPlain (t : StringToken) : Prop := ∃ cs : List Char, t.pieces = cs.map .plain

theorem map_plainStart_append (ps : List Piece) :
    (plainStart ps).1.map .plain ++ (plainStart ps).2 = ps := by
  fun_induction plainStart ps with
  | case1 c r ih => rw [List.map_cons, List.cons_append, ih]
  | case2 r => rfl

theorem joins_map_plain (cs : List Char) : Joins (cs.map .plain) cs := by
  induction cs with
  | nil => exact .nil
  | cons c cs ih => exact .plain c ih

/-- A text has one string without escapes. -/
theorem Denotes.eq_of_isPlain {t : StringToken} {s : String} (h : t.Denotes s)
    (hplain : t.IsPlain) : t = ⟨s.toList.map .plain, .closed⟩ := by
  obtain ⟨cs, hcs⟩ := hplain
  obtain ⟨pieces, ending⟩ := t
  obtain ⟨rfl, hjoins⟩ := h
  obtain rfl : pieces = cs.map .plain := hcs
  obtain rfl : cs = s.toList :=
    Except.ok.inj ((joins_map_plain cs).join_eq.symm.trans hjoins.join_eq)
  rfl

end StringToken

/-- A key ends where its number does. -/
theorem eq_nil_of_closeKey {v w : α} {rest : List Char} {pieces : List Piece} {ending : StringEnd}
    (h : closeKey v rest pieces ending = .ok w) : pieces = [] := by
  rw [closeKey] at h
  split at h
  · next hclosed =>
    simp only [Bool.and_eq_true, List.isEmpty_iff] at hclosed
    exact hclosed.1.2
  · cases h

/-- **A key that is read as a number has no escapes**: the number is taken from what stands for
itself, and nothing may follow it. -/
theorem isPlain_of_quotedNat {bound v : Nat} {expected : String} {t : StringToken}
    (h : quotedNat bound expected t = .ok v) : t.IsPlain := by
  have hsplit := StringToken.map_plainStart_append t.pieces
  rw [quotedNat] at h
  generalize StringToken.plainStart t.pieces = start at h hsplit
  obtain ⟨cs, pieces⟩ := start
  cases cs with
  | nil => cases h
  | cons c cs =>
    by_cases hfirst : (c = '-' || isDigit c) = true
    · simp only [if_pos hfirst] at h
      obtain ⟨k, -, hclose⟩ := exists_of_bind_eq_ok h
      obtain rfl := eq_nil_of_closeKey hclose
      exact ⟨c :: cs, by rw [← hsplit, List.append_nil]⟩
    · simp only [if_neg hfirst] at h
      cases h

/-- **A key is read just as the number between its quotes is**, up to the closing quote. -/
theorem quotedNat_of_spells {cs : List Char} {l : Numeral} (h : SpellsNumeral cs l) (bound : Nat)
    (expected : String) :
    quotedNat bound expected ⟨cs.map .plain, .closed⟩ =
      natBelow bound expected .kept (.number l) := by
  have hscan := h.scan_eq (.cons (c := '"') rfl [])
  obtain ⟨c, r, rfl, hc⟩ := h.exists_cons
  have hfirst : (c = '-' || isDigit c) = true := by simpa using hc
  rw [List.cons_append] at hscan
  rw [quotedNat, plainStart_map_plain]
  simp only [hfirst, if_true, List.isEmpty_nil, Bool.true_and, reduceCtorEq, decide_false,
    Bool.false_eq_true, if_false, List.cons_append, hscan]
  cases natBelow bound expected .kept (.number l) <;> rfl

theorem ofString_digits (n : Nat) :
    StringToken.ofString (String.ofList (digits n)) = ⟨(digits n).map .plain, .closed⟩ := by
  rw [StringToken.ofString, String.toList_ofList,
    List.map_congr_left fun c hc ↦ ofChar_of_isDigit (Text.isDigit_of_mem_digits hc)]

theorem quotedNat_ofString {bound n : Nat} (expected : String) (h : n < bound)
    (h64 : n < Text.bound64) :
    quotedNat bound expected (.ofString (String.ofList (digits n))) = .ok n := by
  rw [ofString_digits, quotedNat_of_spells (Numeral.spellsNumeral_digits n)]
  exact natBelow_node expected h h64

theorem eachEntry_memberNodes {decode : Decoder α} {write : α → Value}
    (h : Restores decode o write) {key : StringToken → Except Fault Nat}
    {f : UInt32 → String} (hkey : ∀ k, key (.ofString (f k)) = .ok k.toNat)
    (l : List (UInt32 × α)) :
    eachEntry key decode o (Value.memberNodes (l.map fun e ↦ (f e.1, write e.2))) =
      .ok (l.map fun e ↦ (e.1.toNat, e.2)) := by
  induction l with
  | nil => rfl
  | cons e l ih =>
    rw [List.map_cons, Value.memberNodes, eachEntry, hkey e.1, h e.2, ih]
    rfl

/-- **A map is restored entry by entry**, its keys being numbers between quotes. -/
theorem Restores.wordMap {decode : Decoder α} {write : α → Value} {room : Nat}
    (h : Restores decode (.live room) write) :
    Restores (wordMap decode) (.live (room + 1)) fun l ↦
      .object (l.map fun e ↦ (String.ofList (digits e.1.toNat), write e.2)) := by
  intro l
  have hkey (k : UInt32) : natKey Text.bound32 "u32" (.live room)
      (.ofString (String.ofList (digits k.toNat))) = .ok k.toNat :=
    quotedNat_ofString "u32" k.toNat_lt (Nat.lt_trans k.toNat_lt (by decide))
  have hentries := eachEntry_memberNodes h hkey l
  have hback : (l.map fun e ↦ (e.1.toNat, e.2)).map (fun e ↦ (UInt32.ofNat e.1, e.2)) = l := by
    simp [List.map_map, Function.comp_def]
  show (eachEntry (natKey Text.bound32 "u32" (.live room)) decode (.live room)
    (Value.memberNodes (l.map fun e ↦ (String.ofList (digits e.1.toNat), write e.2))) >>=
      fun es ↦ .ok (es.map fun e ↦ (UInt32.ofNat e.1, e.2))) = .ok l
  rw [hentries]
  exact congrArg Except.ok hback

theorem isPlain_of_eachEntry {bound room : Nat} {expected : String} {decode : Decoder α}
    {ms : List (StringToken × Node)} {es : List (Nat × α)}
    (h : eachEntry (natKey bound expected (.live room)) decode o ms = .ok es) :
    ∀ m ∈ ms, m.1.IsPlain := by
  induction ms generalizing es with
  | nil => exact fun _ hm ↦ absurd hm List.not_mem_nil
  | cons m ms ih =>
    obtain ⟨k, hk, h⟩ := exists_of_bind_eq_ok h
    obtain ⟨v, -, h⟩ := exists_of_bind_eq_ok h
    obtain ⟨rest, hrest, -⟩ := exists_of_bind_eq_ok h
    exact List.forall_mem_cons.2 ⟨isPlain_of_quotedNat hk, ih hrest⟩

/-- **Only a map whose keys have no escapes is read.** -/
theorem isPlain_of_wordMap {room : Nat} {decode : Decoder α} {n : Node} {l : List (UInt32 × α)}
    (h : wordMap decode (.live room) n = .ok l) : ∀ m ∈ n.members, m.1.IsPlain := by
  cases n with
  | object ms tail =>
    obtain ⟨inside, hinside, h⟩ := exists_of_bind_eq_ok h
    obtain ⟨es, hes, -⟩ := exists_of_bind_eq_ok h
    cases room with
    | zero => cases hinside
    | succ room =>
      obtain rfl : Origin.live room = inside := Except.ok.inj hinside
      exact isPlain_of_eachEntry hes
  | _ => exact fun _ hm ↦ absurd hm List.not_mem_nil

/-! ### Records -/

/-- **A member is read as a field**, by the decoder that belongs to its name. -/
def ReadAs (field? : String → Option (Decoder β)) (o : Origin) (m : String × Value) (v : β) :
    Prop :=
  ∃ decode, field? m.1 = some decode ∧ decode o m.2.node = .ok v

/-- A field wraps what a decoder reads. -/
theorem ReadAs.of_decode {field? : String → Option (Decoder β)} {decode : Decoder α}
    {wrap : α → β} {name : String} {x : Value} {a : α} (h : decode o x.node = .ok a)
    (hname : field? name = some fun o n ↦ wrap <$> decode o n) :
    ReadAs field? o (name, x) (wrap a) := by
  refine ⟨_, hname, ?_⟩
  show wrap <$> decode o x.node = .ok (wrap a)
  rw [h]
  rfl

theorem ReadAs.of_restores {field? : String → Option (Decoder β)} {decode : Decoder α}
    {write : α → Value} {wrap : α → β} {name : String} (h : Restores decode o write)
    (hname : field? name = some fun o n ↦ wrap <$> decode o n) (a : α) :
    ReadAs field? o (name, write a) (wrap a) := .of_decode (h a) hname

/-- A member that is a field is read, and then the members after it. -/
theorem fields_cons {field? : String → Option (Decoder β)} {decode : Decoder β}
    {seen : List String} {name : String} (hname : field? name = some decode) (hnew : name ∉ seen)
    (tail : ObjectTail) (x : Value) (l : List (String × Value)) :
    fields field? o tail seen (Value.memberNodes ((name, x) :: l)) = (do
      let v ← decode o x.node
      let vs ← fields field? o tail (name :: seen) (Value.memberNodes l)
      .ok (v :: vs)) := by
  rw [Value.memberNodes]
  exact fields_field (StringToken.denotes_ofString name) hname hnew

/-- **Members with different names are read one by one**, each as its field. The names that have
been seen are kept while reading, so the induction is for any of them. -/
theorem fields_memberNodes {field? : String → Option (Decoder β)} {l : List (String × Value)}
    {vs : List β} (h : List.Forall₂ (ReadAs field? o) l vs) :
    ∀ {seen : List String}, (l.map Prod.fst).Nodup → (∀ m ∈ l, m.1 ∉ seen) →
      fields field? o .closed seen (Value.memberNodes l) = .ok vs := by
  induction h with
  | nil =>
    intro seen _ _
    rfl
  | @cons m v l vs hm _ ih =>
    intro seen hnodup hseen
    obtain ⟨decode, hfield, hdecode⟩ := hm
    rw [List.map_cons, List.nodup_cons] at hnodup
    have hrest : fields field? o .closed (m.1 :: seen) (Value.memberNodes l) = .ok vs := by
      refine ih hnodup.2 fun m' hm' hmem ↦ ?_
      rcases List.mem_cons.1 hmem with heq | hmem
      · exact hnodup.1 (heq ▸ List.mem_map_of_mem hm')
      · exact hseen m' (List.mem_cons_of_mem m hm') hmem
    rw [fields_cons hfield (hseen m List.mem_cons_self), hdecode, hrest]
    rfl

/-- A record that was written as an object is read from its members. -/
theorem decode_object (r : Record α) (ho : o.enter = .ok o') (l : List (String × Value)) :
    r.decode o (Value.object l).node = r.ofMembers o' (Value.memberNodes l) .closed := by
  rw [Value.node, Record.decode_members ho]

/-! ### Names inside their content -/

/-- **Members beside the name are kept**, where the name is looked for further on. -/
theorem splitTag_append {tag : String} {decode : Decoder α} {tail : ObjectTail} {found : Option α}
    {l : List (String × Value)} {ms : List (StringToken × Node)} (hkeys : ∀ m ∈ l, m.1 ≠ tag)
    (hkeep : ∀ m ∈ l, keep o m.2.node = .ok ()) :
    splitTag tag decode o tail found (Value.memberNodes l ++ ms) =
      (splitTag tag decode o tail found ms >>= fun r ↦ .ok (r.1, Value.memberNodes l ++ r.2)) := by
  induction l with
  | nil =>
    show splitTag tag decode o tail found ms = _
    cases splitTag tag decode o tail found ms <;> rfl
  | cons m l ih =>
    have hrest := ih (fun m' hm' ↦ hkeys m' (List.mem_cons_of_mem m hm'))
      fun m' hm' ↦ hkeep m' (List.mem_cons_of_mem m hm')
    rw [Value.memberNodes, List.cons_append, splitTag, StringToken.value_ofString, hrest]
    simp only [hkeep m List.mem_cons_self, bind, Except.bind, if_neg (hkeys m List.mem_cons_self)]
    cases splitTag tag decode o tail found ms <;> rfl

/-- A name is read off its text, wherever the text comes from. -/
theorem name_string {alternatives : List (String × α)} {name : String} {a : α}
    (hname : alternatives.lookup name = some a) (o : Origin) :
    Json.name alternatives o (Value.string name).node = .ok a := by
  rw [Value.node, Json.name, StringToken.value_ofString]
  show named alternatives name = .ok a
  rw [named, hname]

/-- **A content is read from the members beside its name**, wherever the name stands among them, if
they can be kept. -/
theorem tagged_object {tag expected name : String} {alternatives : List (String × Decoder α)}
    {content : Decoder α} {l l' : List (String × Value)} (ho : o.enter = .ok o')
    (hname : alternatives.lookup name = some content) (hkeys : ∀ m ∈ l ++ l', m.1 ≠ tag)
    (hkeep : ∀ m ∈ l ++ l', keep o' m.2.node = .ok ()) :
    tagged tag expected alternatives o (Value.object (l ++ (tag, .string name) :: l')).node =
      content .kept (Value.object (l ++ l')).node := by
  rw [List.forall_mem_append] at hkeys hkeep
  have hafter : splitTag tag (Json.name alternatives) o' .closed (some content)
      (Value.memberNodes l' ++ []) = .ok (content, Value.memberNodes l') := by
    rw [splitTag_append hkeys.2 hkeep.2]
    simp [bind, Except.bind, splitTag, ObjectTail.finish, required]
  have hsplit : splitTag tag (Json.name alternatives) o' .closed none
      (Value.memberNodes l ++ Value.memberNodes ((tag, .string name) :: l')) =
      .ok (content, Value.memberNodes l ++ Value.memberNodes l') := by
    rw [List.append_nil] at hafter
    rw [splitTag_append hkeys.1 hkeep.1, Value.memberNodes, splitTag, StringToken.value_ofString]
    simp [name_string hname, hafter, bind, Except.bind]
  rw [Value.node, tagged, ho, Value.memberNodes_append]
  simp only [bind, Except.bind, hsplit]
  rw [Value.node, Value.memberNodes_append]

/-! ### Whole texts -/

/-- **A text of a value is decoded as its tree**, where all brackets may open. -/
theorem decodeText_valueText (decode : Decoder α) (v : Value) :
    decodeText decode v.text = decode (.live maxDepth) v.node :=
  v.spelledIn_text.decodeText_eq decode

theorem decodeText_valuePrettyText (decode : Decoder α) (v : Value) :
    decodeText decode v.prettyText = decode (.live maxDepth) v.node :=
  v.spelledIn_prettyText.decodeText_eq decode

/-- **Both texts of what was written are decoded as what it was.** -/
theorem decodeText_text {decode : Decoder α} {write : α → Value}
    (h : Restores decode (.live maxDepth) write) (a : α) :
    decodeText decode (write a).text = .ok a := by
  rw [decodeText_valueText, h a]

theorem decodeText_prettyText {decode : Decoder α} {write : α → Value}
    (h : Restores decode (.live maxDepth) write) (a : α) :
    decodeText decode (write a).prettyText = .ok a := by
  rw [decodeText_valuePrettyText, h a]

end TraceReconciler.Json
