import TraceReconciler.Json.Decoder
import TraceReconciler.Proofs.Json.Token

/-!
# Spellings of a tree

Which texts stand for a tree is said by a grammar (`Spells`): words, numerals and strings, brackets,
commas and colons where they belong, and any blanks between two tokens. The grammar does not mention
the reader, and it leaves open how a string is escaped and where the blanks stand, so that one
theorem about the reader (`Spells.document_read`) serves every text that is a spelling. A text with
blanks around a spelling is decoded as its tree (`SpelledIn.decodeText_eq`).

**What the reader is allowed.** The recursion of the reader is bounded by a number. Reading a value
takes less than twice the length of its spelling, and reading items or members at most twice
(`Reads`); the three statements are proved together, by induction on the bound.
-/

namespace TraceReconciler.Json

open Text (isDigit)

/-! ### Blanks -/

/-- A text of blanks only. -/
def IsBlank (b : List Char) : Prop := ∀ c ∈ b, isSpace c = true

instance (b : List Char) : Decidable (IsBlank b) :=
  decidable_of_iff (b.all isSpace = true) (by simp [IsBlank])

theorem isBlank_nil : IsBlank [] := by
  intro c hc
  cases hc

theorem skipSpace_blank_append {b : List Char} (hb : IsBlank b) (cs : List Char) :
    skipSpace (b ++ cs) = skipSpace cs :=
  List.dropWhile_append_of_pos hb

theorem skipSpace_cons {c : Char} (h : isSpace c = false) (cs : List Char) :
    skipSpace (c :: cs) = c :: cs := by
  simp [skipSpace, h]

theorem skipSpace_blank_cons {b : List Char} (hb : IsBlank b) {c : Char} (hc : isSpace c = false)
    (cs : List Char) : skipSpace (b ++ c :: cs) = c :: cs := by
  rw [skipSpace_blank_append hb, skipSpace_cons hc]

/-- No blank goes on with a numeral. -/
theorem goesOn_of_isSpace {c : Char} (h : isSpace c = true) : Numeral.goesOn c = false := by
  simp only [isSpace, Bool.or_eq_true, beq_iff_eq] at h
  rcases h with ((rfl | rfl) | rfl) | rfl <;> decide

theorem Numeral.Ends.blank_append {b rest : List Char} (hb : IsBlank b) (h : Ends rest) :
    Ends (b ++ rest) := by
  cases b with
  | nil => exact h
  | cons c r => exact .cons (goesOn_of_isSpace (hb c List.mem_cons_self)) _

/-! ### The grammar -/

mutual

/-- **A text spells a tree.** -/
inductive Spells : List Char → Node → Prop
  | null : Spells "null".toList .null
  | boolean (b : Bool) : Spells (booleanText b) (.boolean b)
  | number {cs : List Char} {n : Numeral} (h : SpellsNumeral cs n) : Spells cs (.number n)
  | string {cs : List Char} {t : StringToken} (h : SpellsString cs t) : Spells cs (.string t)
  | emptyArray {b : List Char} (hb : IsBlank b) : Spells ('[' :: (b ++ [']'])) (.array [] .closed)
  | array {cs : List Char} {xs : List Node} (h : SpellsItems cs xs) :
      Spells ('[' :: (cs ++ [']'])) (.array xs .closed)
  | emptyObject {b : List Char} (hb : IsBlank b) :
      Spells ('\x7b' :: (b ++ ['\x7d'])) (.object [] .closed)
  | object {cs : List Char} {ms : List (StringToken × Node)} (h : SpellsMembers cs ms) :
      Spells ('\x7b' :: (cs ++ ['\x7d'])) (.object ms .closed)

/-- A text spells the items of an array, of which there is at least one. -/
inductive SpellsItems : List Char → List Node → Prop
  | last {b cs b' : List Char} {x : Node} (hb : IsBlank b) (h : Spells cs x) (hb' : IsBlank b') :
      SpellsItems (b ++ (cs ++ b')) [x]
  | more {b cs b' ds : List Char} {x : Node} {xs : List Node} (hb : IsBlank b) (h : Spells cs x)
      (hb' : IsBlank b') (hs : SpellsItems ds xs) :
      SpellsItems (b ++ (cs ++ (b' ++ ',' :: ds))) (x :: xs)

/-- A text spells the members of an object, of which there is at least one. -/
inductive SpellsMembers : List Char → List (StringToken × Node) → Prop
  | last {b ks b₁ b₂ cs b' : List Char} {t : StringToken} {x : Node} (hb : IsBlank b)
      (hk : SpellsString ks t) (hb₁ : IsBlank b₁) (hb₂ : IsBlank b₂) (h : Spells cs x)
      (hb' : IsBlank b') :
      SpellsMembers (b ++ (ks ++ (b₁ ++ ':' :: (b₂ ++ (cs ++ b'))))) [(t, x)]
  | more {b ks b₁ b₂ cs b' ds : List Char} {t : StringToken} {x : Node}
      {ms : List (StringToken × Node)} (hb : IsBlank b) (hk : SpellsString ks t) (hb₁ : IsBlank b₁)
      (hb₂ : IsBlank b₂) (h : Spells cs x) (hb' : IsBlank b') (hs : SpellsMembers ds ms) :
      SpellsMembers (b ++ (ks ++ (b₁ ++ ':' :: (b₂ ++ (cs ++ (b' ++ ',' :: ds))))))
        ((t, x) :: ms)

end

/-! ### How a value begins -/

/-- A character that a value can begin with. -/
def opens (c : Char) : Bool := !isSpace c && c != ']'

theorem opens_of_isDigit {c : Char} (h : isDigit c = true) : opens c = true := by
  have hspace : isSpace c = false := by
    cases hs : isSpace c with
    | false => rfl
    | true =>
      have hgoes := goesOn_of_isSpace hs
      simp [Numeral.goesOn, h] at hgoes
  have hbracket : c ≠ ']' := ne_of_isDigit h rfl
  simp [opens, hspace, hbracket]

/-- **A value begins with a character** that is no blank and closes nothing. -/
theorem Spells.exists_cons {cs : List Char} {n : Node} (h : Spells cs n) :
    ∃ c r, cs = c :: r ∧ opens c = true := by
  cases h with
  | boolean b => cases b <;> exact ⟨_, _, rfl, rfl⟩
  | number h =>
    obtain ⟨c, r, rfl, hc⟩ := h.exists_cons
    exact ⟨c, r, rfl, hc.elim (fun h ↦ h ▸ rfl) opens_of_isDigit⟩
  | string h =>
    obtain ⟨-⟩ := h
    exact ⟨_, _, rfl, rfl⟩
  | _ => exact ⟨_, _, rfl, rfl⟩

/-- Blanks before a value are skipped, and nothing else is. -/
theorem Spells.skipSpace_eq {b cs : List Char} {n : Node} (h : Spells cs n) (hb : IsBlank b)
    (rest : List Char) : skipSpace (b ++ (cs ++ rest)) = cs ++ rest := by
  obtain ⟨c, r, rfl, hc⟩ := h.exists_cons
  simp only [opens, Bool.and_eq_true, Bool.not_eq_true'] at hc
  rw [skipSpace_blank_append hb, List.cons_append, skipSpace_cons hc.1]

theorem Spells.length_pos {cs : List Char} {n : Node} (h : Spells cs n) : 0 < cs.length := by
  obtain ⟨c, r, rfl, -⟩ := h.exists_cons
  exact Nat.succ_pos _

/-! ### Reading what is spelled -/

theorem read_of_skipSpace_eq {cs ds : List Char} (h : skipSpace cs = skipSpace ds) (fuel : Nat) :
    Node.read fuel cs = Node.read fuel ds := by
  cases fuel with
  | zero => rfl
  | succ fuel => rw [Node.read, Node.read, h]

/-- A character that begins neither a blank nor an array nor an object begins a single value. -/
theorem read_scalar {c : Char} (hspace : isSpace c = false) (harray : c ≠ '[')
    (hobject : c ≠ '\x7b') (fuel : Nat) (r : List Char) :
    Node.read (fuel + 1) (c :: r) = readScalar (c :: r) := by
  rw [Node.read, skipSpace_cons hspace]
  split
  · next h => exact absurd (List.cons.inj h).1 harray
  · next h => exact absurd (List.cons.inj h).1 hobject
  · rfl

/-- A minus or a digit begins a numeral. -/
theorem read_numeral {c : Char} (h : c = '-' ∨ isDigit c = true) (fuel : Nat) (r : List Char) :
    Node.read (fuel + 1) (c :: r) = readNumeral (c :: r) := by
  rcases h with rfl | h
  · rfl
  have hopens := opens_of_isDigit h
  simp only [opens, Bool.and_eq_true, Bool.not_eq_true'] at hopens
  rw [read_scalar hopens.1 (ne_of_isDigit h rfl) (ne_of_isDigit h rfl)]
  have hn : c ≠ 'n' := ne_of_isDigit h rfl
  have ht : c ≠ 't' := ne_of_isDigit h rfl
  have hf : c ≠ 'f' := ne_of_isDigit h rfl
  have hquote : c ≠ '"' := ne_of_isDigit h rfl
  simp [readScalar, hn, ht, hf, hquote, h]

theorem read_array {fuel : Nat} {c : Char} {r r₁ : List Char} (h : skipSpace r = c :: r₁)
    (hc : c ≠ ']') :
    Node.read (fuel + 1) ('[' :: r) =
      (.array (readItems fuel (c :: r₁)).1 (readItems fuel (c :: r₁)).2.1,
        (readItems fuel (c :: r₁)).2.2) := by
  rw [Node.read, skipSpace_cons rfl]
  simp only [h]
  split
  · next heq => exact absurd heq (List.cons_ne_nil _ _)
  · next heq => exact absurd (List.cons.inj heq).1 hc
  · rfl

theorem read_object {fuel : Nat} {r r₁ : List Char} (h : skipSpace r = '"' :: r₁) :
    Node.read (fuel + 1) ('\x7b' :: r) =
      (.object (readMembers fuel ('"' :: r₁)).1 (readMembers fuel ('"' :: r₁)).2.1,
        (readMembers fuel ('"' :: r₁)).2.2) := by
  rw [Node.read, skipSpace_cons rfl]
  simp only [h]
  rfl

section

variable {fuel : Nat} {cs r r₁ r₂ : List Char} {x : Node}

theorem readItems_last (h : Node.read fuel cs = (x, some r)) (hr : skipSpace r = ']' :: r₁) :
    readItems (fuel + 1) cs = ([x], .closed, some r₁) := by
  simp only [readItems, h, hr]

theorem readItems_more {c : Char} (h : Node.read fuel cs = (x, some r))
    (hr : skipSpace r = ',' :: r₁) (hr₁ : skipSpace r₁ = c :: r₂) (hc : c ≠ ']') :
    readItems (fuel + 1) cs =
      (x :: (readItems fuel (c :: r₂)).1, (readItems fuel (c :: r₂)).2.1,
        (readItems fuel (c :: r₂)).2.2) := by
  simp only [readItems, h, hr, hr₁]
  split
  · next heq => exact absurd heq (List.cons_ne_nil _ _)
  · next heq => exact absurd (List.cons.inj heq).1 hc
  · rfl

variable {ks : List Char} {t : StringToken} (hk : SpellsString ks t)

include hk

theorem readMembers_last (hcolon : skipSpace cs = ':' :: r₂) (h : Node.read fuel r₂ = (x, some r))
    (hr : skipSpace r = '\x7d' :: r₁) :
    readMembers (fuel + 1) (ks ++ cs) = ([(t, x)], .closed, some r₁) := by
  obtain ⟨q, hq, hscan⟩ := hk.exists_scan cs
  simp only [hq, readMembers, hscan, hk.ending_eq, hcolon, h, hr, if_true]

theorem readMembers_more {r₃ : List Char} (hcolon : skipSpace cs = ':' :: r₂)
    (h : Node.read fuel r₂ = (x, some r)) (hr : skipSpace r = ',' :: r₁)
    (hr₁ : skipSpace r₁ = '"' :: r₃) :
    readMembers (fuel + 1) (ks ++ cs) =
      ((t, x) :: (readMembers fuel ('"' :: r₃)).1, (readMembers fuel ('"' :: r₃)).2.1,
        (readMembers fuel ('"' :: r₃)).2.2) := by
  obtain ⟨q, hq, hscan⟩ := hk.exists_scan cs
  simp only [hq, readMembers, hscan, hk.ending_eq, hcolon, h, hr, hr₁, if_true]
  rfl

/-- No blank begins a string. -/
theorem SpellsString.skipSpace_eq (rest : List Char) : skipSpace (ks ++ rest) = ks ++ rest := by
  obtain ⟨q, hq, -⟩ := hk.exists_scan rest
  rw [hq, skipSpace_cons rfl]

end

/-- **What is read with a bound**, of values, of items and of members. -/
structure Reads (fuel : Nat) : Prop where
  value {cs : List Char} {n : Node} (h : Spells cs n) (rest : List Char)
    (hrest : Numeral.Ends rest) (hfuel : 2 * cs.length ≤ fuel + 1) :
    Node.read fuel (cs ++ rest) = (n, some rest)
  items {cs : List Char} {xs : List Node} (h : SpellsItems cs xs) (rest : List Char)
    (hfuel : 2 * cs.length ≤ fuel) :
    readItems fuel (skipSpace (cs ++ ']' :: rest)) = (xs, .closed, some rest)
  members {cs : List Char} {ms : List (StringToken × Node)} (h : SpellsMembers cs ms)
    (rest : List Char) (hfuel : 2 * cs.length ≤ fuel) :
    readMembers fuel (skipSpace (cs ++ '\x7d' :: rest)) = (ms, .closed, some rest)

/-! ### Items and members begin where the blanks end -/

theorem SpellsItems.skipSpace_eq {cs : List Char} {xs : List Node} (h : SpellsItems cs xs)
    (rest : List Char) : ∃ c r, skipSpace (cs ++ rest) = c :: r ∧ c ≠ ']' := by
  have key {b cs : List Char} {x : Node} (hb : IsBlank b) (hx : Spells cs x) (r : List Char) :
      ∃ c r', skipSpace (b ++ (cs ++ r)) = c :: r' ∧ c ≠ ']' := by
    rw [hx.skipSpace_eq hb]
    obtain ⟨c, r', rfl, hc⟩ := hx.exists_cons
    simp only [opens, Bool.and_eq_true, bne_iff_ne] at hc
    exact ⟨c, r' ++ r, rfl, hc.2⟩
  cases h with
  | last hb hx hb' =>
    rw [List.append_assoc, List.append_assoc]
    exact key hb hx _
  | more hb hx hb' hs =>
    rw [List.append_assoc, List.append_assoc]
    exact key hb hx _

theorem SpellsMembers.skipSpace_eq {cs : List Char} {ms : List (StringToken × Node)}
    (h : SpellsMembers cs ms) (rest : List Char) :
    ∃ r, skipSpace (cs ++ rest) = '"' :: r := by
  have key {b ks : List Char} {t : StringToken} (hb : IsBlank b) (hk : SpellsString ks t)
      (r : List Char) : ∃ r', skipSpace (b ++ (ks ++ r)) = '"' :: r' := by
    rw [skipSpace_blank_append hb, hk.skipSpace_eq]
    obtain ⟨q, hq, -⟩ := hk.exists_scan r
    exact ⟨q, hq⟩
  cases h with
  | last hb hk hb₁ hb₂ hx hb' =>
    rw [List.append_assoc, List.append_assoc]
    exact key hb hk _
  | more hb hk hb₁ hb₂ hx hb' hs =>
    rw [List.append_assoc, List.append_assoc]
    exact key hb hk _

/-! ### One more -/

namespace Reads

variable {fuel : Nat}

theorem value_succ (ih : Reads fuel) {cs : List Char} {n : Node} (h : Spells cs n)
    (rest : List Char) (hrest : Numeral.Ends rest) (hfuel : 2 * cs.length ≤ fuel + 2) :
    Node.read (fuel + 1) (cs ++ rest) = (n, some rest) := by
  cases h with
  | null => rfl
  | boolean b => cases b <;> rfl
  | number hn =>
    have hscan := hn.scan_eq hrest
    obtain ⟨c, ds, rfl, hc⟩ := hn.exists_cons
    rw [List.cons_append] at hscan ⊢
    rw [read_numeral hc, readNumeral, hscan]
    simp [hn.flaw_eq]
  | string ht =>
    obtain ⟨q, hq, hscan⟩ := ht.exists_scan rest
    rw [hq, read_scalar rfl (by decide) (by decide)]
    simp [readScalar, readString, hscan, ht.ending_eq]
  | @emptyArray b hb =>
    rw [List.cons_append, List.append_assoc, List.singleton_append, Node.read, skipSpace_cons rfl]
    simp only [skipSpace_blank_cons hb (c := ']') rfl]
  | @array cs xs hs =>
    obtain ⟨c, r, hr, hc⟩ := hs.skipSpace_eq (']' :: rest)
    have hitems := ih.items hs rest (by
      simp only [List.length_cons, List.length_append, List.length_nil] at hfuel
      omega)
    rw [List.cons_append, List.append_assoc, List.singleton_append, read_array hr hc, ← hr, hitems]
  | @emptyObject b hb =>
    rw [List.cons_append, List.append_assoc, List.singleton_append, Node.read, skipSpace_cons rfl]
    simp only [skipSpace_blank_cons hb (c := '\x7d') rfl]
  | @object cs ms hs =>
    obtain ⟨r, hr⟩ := hs.skipSpace_eq ('\x7d' :: rest)
    have hmembers := ih.members hs rest (by
      simp only [List.length_cons, List.length_append, List.length_nil] at hfuel
      omega)
    rw [List.cons_append, List.append_assoc, List.singleton_append, read_object hr, ← hr, hmembers]

theorem items_succ (ih : Reads fuel) {cs : List Char} {xs : List Node}
    (h : SpellsItems cs xs) (rest : List Char) (hfuel : 2 * cs.length ≤ fuel + 1) :
    readItems (fuel + 1) (skipSpace (cs ++ ']' :: rest)) = (xs, .closed, some rest) := by
  cases h with
  | @last b cs b' x hb hx hb' =>
    simp only [List.length_append] at hfuel
    have hread := ih.value hx (b' ++ ']' :: rest) (.blank_append hb' (.cons rfl _))
      (by omega)
    rw [List.append_assoc, List.append_assoc, hx.skipSpace_eq hb]
    exact readItems_last hread (skipSpace_blank_cons hb' rfl _)
  | @more b cs b' ds x xs hb hx hb' hs =>
    simp only [List.length_append, List.length_cons] at hfuel
    have hpos := hx.length_pos
    obtain ⟨c, r, hr, hc⟩ := hs.skipSpace_eq (']' :: rest)
    have hread := ih.value hx (b' ++ ',' :: (ds ++ ']' :: rest))
      (.blank_append hb' (.cons rfl _)) (by omega)
    have hitems := ih.items hs rest (by omega)
    rw [List.append_assoc, List.append_assoc, List.append_assoc, List.cons_append,
      hx.skipSpace_eq hb, readItems_more hread (skipSpace_blank_cons hb' rfl _) hr hc, ← hr, hitems]

/-- A value is read after any blanks. -/
theorem value_blank (ih : Reads fuel) {b cs : List Char} {n : Node} (hb : IsBlank b)
    (h : Spells cs n) (rest : List Char) (hrest : Numeral.Ends rest)
    (hfuel : 2 * cs.length ≤ fuel + 1) :
    Node.read fuel (b ++ (cs ++ rest)) = (n, some rest) := by
  rw [read_of_skipSpace_eq (skipSpace_blank_append hb _), ih.value h rest hrest hfuel]

theorem members_succ (ih : Reads fuel) {cs : List Char} {ms : List (StringToken × Node)}
    (h : SpellsMembers cs ms) (rest : List Char) (hfuel : 2 * cs.length ≤ fuel + 1) :
    readMembers (fuel + 1) (skipSpace (cs ++ '\x7d' :: rest)) = (ms, .closed, some rest) := by
  cases h with
  | @last b ks b₁ b₂ cs b' t x hb hk hb₁ hb₂ hx hb' =>
    simp only [List.length_append, List.length_cons] at hfuel
    have hread := ih.value_blank hb₂ hx (b' ++ '\x7d' :: rest)
      (.blank_append hb' (.cons rfl _)) (by omega)
    simp only [List.append_assoc, List.cons_append]
    rw [skipSpace_blank_append hb, hk.skipSpace_eq]
    exact readMembers_last hk (skipSpace_blank_cons hb₁ rfl _) hread (skipSpace_blank_cons hb' rfl _)
  | @more b ks b₁ b₂ cs b' ds t x ms hb hk hb₁ hb₂ hx hb' hs =>
    simp only [List.length_append, List.length_cons] at hfuel
    obtain ⟨r, hr⟩ := hs.skipSpace_eq ('\x7d' :: rest)
    have hread := ih.value_blank hb₂ hx (b' ++ ',' :: (ds ++ '\x7d' :: rest))
      (.blank_append hb' (.cons rfl _)) (by omega)
    have hmembers := ih.members hs rest (by omega)
    simp only [List.append_assoc, List.cons_append]
    rw [skipSpace_blank_append hb, hk.skipSpace_eq,
      readMembers_more hk (skipSpace_blank_cons hb₁ rfl _) hread (skipSpace_blank_cons hb' rfl _) hr,
      ← hr, hmembers]

end Reads

theorem SpellsItems.length_pos {cs : List Char} {xs : List Node} (h : SpellsItems cs xs) :
    0 < cs.length := by
  cases h with
  | last hb hx hb' =>
    have hpos := hx.length_pos
    simp only [List.length_append]
    omega
  | more hb hx hb' hs =>
    simp only [List.length_append, List.length_cons]
    omega

theorem SpellsMembers.length_pos {cs : List Char} {ms : List (StringToken × Node)}
    (h : SpellsMembers cs ms) : 0 < cs.length := by
  cases h with
  | last hb hk hb₁ hb₂ hx hb' =>
    simp only [List.length_append, List.length_cons]
    omega
  | more hb hk hb₁ hb₂ hx hb' hs =>
    simp only [List.length_append, List.length_cons]
    omega

theorem reads (fuel : Nat) : Reads fuel := by
  induction fuel with
  | zero =>
    refine ⟨fun h _ _ hfuel ↦ ?_, fun h _ hfuel ↦ ?_, fun h _ hfuel ↦ ?_⟩
    · have hpos := h.length_pos
      omega
    · have hpos := h.length_pos
      omega
    · have hpos := h.length_pos
      omega
  | succ fuel ih => exact ⟨ih.value_succ, ih.items_succ, ih.members_succ⟩

/-- **A spelled text is read as the tree that it spells**, with any blanks around it. -/
theorem Spells.document_read {b cs b' : List Char} {n : Node} (hb : IsBlank b) (h : Spells cs n)
    (hb' : IsBlank b') : Document.read (String.ofList (b ++ (cs ++ b'))) = ⟨n, false⟩ := by
  have hends : Numeral.Ends b' := by
    cases b' with
    | nil => exact nofun
    | cons c r => exact .cons (goesOn_of_isSpace (hb' c List.mem_cons_self)) r
  have hread := (reads (2 * (b ++ (cs ++ b')).length + 2)).value_blank hb h b' hends (by
    simp only [List.length_append]
    omega)
  have hskip : skipSpace b' = [] := by
    have happend := skipSpace_blank_append hb' []
    rwa [List.append_nil] at happend
  rw [Document.read, String.toList_ofList]
  simp only [hread, hskip]
  rfl

/-! ### Whole texts -/

/-- **A whole text spells a tree**, with any blanks around it. -/
def SpelledIn (text : String) (n : Node) : Prop :=
  ∃ b cs b', text.toList = b ++ (cs ++ b') ∧ IsBlank b ∧ Spells cs n ∧ IsBlank b'

namespace SpelledIn

variable {text : String} {n : Node}

theorem document_read (h : SpelledIn text n) : Document.read text = ⟨n, false⟩ := by
  obtain ⟨b, cs, b', htext, hb, hspells, hb'⟩ := h
  rw [← String.ofList_toList (s := text), htext, hspells.document_read hb hb']

/-- **A text is decoded as the tree that it spells**, where all brackets may open. -/
theorem decodeText_eq {α : Type} (decode : Decoder α) (h : SpelledIn text n) :
    decodeText decode text = decode (.live maxDepth) n := by
  rw [decodeText, h.document_read]
  cases decode (.live maxDepth) n <;> rfl

end SpelledIn

end TraceReconciler.Json
