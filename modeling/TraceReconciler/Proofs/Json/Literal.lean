import TraceReconciler.Proofs.Json.Decoding
import TraceReconciler.Proofs.Json.Presentation

/-!
# Numbers as a text gives them

Where a number is wanted a text gives a literal: any numeral of the grammar, with a sign, a fraction
or an exponent, and of any length. A literal is kept here with its characters (`Literal`), because
the same literal may also stand between the quotes of a key.

**A number is taken exactly or not at all.** A decoder of numbers below a bound takes a literal if it
is the canonical one of a number below this bound, and then it takes this number
(`Literal.natBelow_eq_ok_iff`); nothing wraps, saturates or is rounded. The two decoders work
differently, one on the value of a numeral and one on the characters of a key, but what the second
one takes is what the first one does (`Literal.natKey_eq_ok_iff`).

What is put together of literals inherits this. A decoder *reads exactly* what it is made for if all
that it takes, of whatever may stand in its place, is what is written of some value, and this value
is what it takes it for (`ReadsExactly`). Lists and maps read exactly if their parts do, and so do
the fields of an object that is read.
-/

namespace TraceReconciler.Json

open Text (digits digitsValue bound32 bound64)

/-- **A literal of a number**: its characters, and the numeral that they are. -/
structure Literal where
  chars : List Char
  numeral : Numeral
  spells : SpellsNumeral chars numeral

namespace Literal

variable {l l' : Literal} {bound k : Nat} {expected : String} {o : Origin}

/-- A literal is known by its characters. -/
theorem eq_of_chars (h : l.chars = l'.chars) : l = l' := by
  have hscan : Numeral.scan (l.chars ++ []) = (l.numeral, []) := l.spells.scan_eq nofun
  have hscan' : Numeral.scan (l'.chars ++ []) = (l'.numeral, []) := l'.spells.scan_eq nofun
  rw [h, hscan'] at hscan
  obtain ⟨cs, n, hn⟩ := l
  obtain ⟨cs', n', hn'⟩ := l'
  obtain rfl : cs = cs' := h
  obtain rfl : n' = n := (Prod.mk.inj hscan).1
  rfl

/-! ### The literals of integers -/

/-- The canonical literal of a natural number. -/
def ofNat (n : Nat) : Literal := ⟨digits n, .ofNat n, Numeral.spellsNumeral_digits n⟩

/-- **The canonical literal of an integer**: its digits, behind a minus if it is negative. -/
def ofInt (n : Int) : Literal where
  chars := (if decide (n < 0) then ['-'] else []) ++ digits n.natAbs
  numeral := ⟨decide (n < 0), digits n.natAbs, none, none, none⟩
  spells := by
    have h := SpellsNumeral.intro (decide (n < 0)) (Numeral.spellsWhole_digits n.natAbs) .missing
      .missing
    rwa [List.append_nil, List.append_nil] at h

/-- A literal of a natural number below a bound. -/
def Fits (bound : Nat) (l : Literal) : Prop := ∃ k < bound, l = ofNat k

theorem ofNat_inj {n : Nat} (h : ofNat n = ofNat k) : n = k := by
  have hdigits : digits n = digits k := congrArg chars h
  rw [← Text.digitsValue_digits n, hdigits, Text.digitsValue_digits]

theorem ofInt_natCast (n : Nat) : ofInt n = ofNat n := by
  have hsign : decide ((n : Int) < 0) = false := by simp
  refine eq_of_chars ?_
  show (if decide ((n : Int) < 0) then ['-'] else []) ++ digits n = digits n
  rw [hsign]
  rfl

/-- **A literal without a minus, a fraction and an exponent** is that of a natural number. -/
theorem eq_ofNat_of_plain (hsign : l.numeral.negative = false) (hfraction : l.numeral.fraction = none)
    (hexponent : l.numeral.exponent = none) : l = ofNat (digitsValue l.numeral.whole) := by
  obtain ⟨cs, n, h⟩ := l
  refine eq_of_chars ?_
  obtain ⟨negative, hw, hf, he⟩ := h
  obtain rfl : negative = false := hsign
  cases hf with
  | present => cases hfraction
  | missing =>
    cases he with
    | present => cases hexponent
    | missing =>
      show [] ++ (_ ++ ([] ++ [])) = digits (digitsValue _)
      rw [hw.digits_eq, List.nil_append, List.append_nil, List.append_nil]

/-- **An integer fits if it is in range.** -/
theorem fits_ofInt_iff {n : Int} : (ofInt n).Fits bound ↔ 0 ≤ n ∧ n < bound := by
  constructor
  · rintro ⟨k, hk, h⟩
    have hnumeral := congrArg numeral h
    have hsign : decide (n < 0) = false := congrArg Numeral.negative hnumeral
    have hwhole : digits n.natAbs = digits k := congrArg Numeral.whole hnumeral
    have habs : n.natAbs = k := by
      rw [← Text.digitsValue_digits n.natAbs, hwhole, Text.digitsValue_digits]
    have hpos : ¬ n < 0 := of_decide_eq_false hsign
    omega
  · rintro ⟨hpos, hlt⟩
    obtain ⟨k, rfl⟩ := Int.eq_ofNat_of_zero_le hpos
    exact ⟨k, by exact_mod_cast hlt, ofInt_natCast k⟩

/-- A literal with a minus, a fraction or an exponent fits nowhere; a minus before zero, too. -/
theorem not_fits (h : l.numeral.negative = true ∨ l.numeral.fraction ≠ none ∨
    l.numeral.exponent ≠ none) : ¬ l.Fits bound := by
  rintro ⟨k, -, rfl⟩
  rcases h with h | h | h
  · cases h
  · exact h rfl
  · exact h rfl

/-! ### Numbers below a bound -/

theorem whole?_eq_nat {n : Numeral} (h : n.whole? = some (.nat k)) :
    n.negative = false ∧ n.fraction = none ∧ n.exponent = none ∧ digitsValue n.whole = k ∧
      k < bound64 := by
  rw [Numeral.whole?] at h
  split at h
  · cases h
  · next hpoint =>
    rw [Bool.or_eq_true, not_or, Option.not_isSome_iff_eq_none, Option.not_isSome_iff_eq_none]
      at hpoint
    dsimp only at h
    split at h
    · split at h <;> cases h
    · next hsign =>
      split at h
      · next hlt =>
        cases h
        exact ⟨Bool.eq_false_iff.2 hsign, hpoint.1, hpoint.2, rfl, hlt⟩
      · cases h

/-- **A literal has the value of a natural number just if it is the canonical one.** -/
theorem value_eq_nat_iff : l.numeral.value = .ok (.nat k) ↔ l = ofNat k ∧ k < bound64 := by
  constructor
  · intro h
    have hwhole : l.numeral.whole? = some (.nat k) := by
      rw [Numeral.value, l.spells.flaw_eq] at h
      cases hw : l.numeral.whole? with
      | some v =>
        simp only [hw] at h
        exact congrArg some (Except.ok.inj h)
      | none =>
        -- Whatever is computed with an exponent is no natural number.
        simp only [hw] at h
        cases hm : l.numeral.magnitude? <;> simp [hm] at h
    obtain ⟨hsign, hfraction, hexponent, rfl, hlt⟩ := whole?_eq_nat hwhole
    exact ⟨eq_ofNat_of_plain hsign hfraction hexponent, hlt⟩
  · rintro ⟨rfl, hk⟩
    exact Numeral.value_ofNat hk

/-- **What is taken where a number below a bound is wanted.** -/
theorem natBelow_eq_ok_iff (h64 : bound ≤ bound64) :
    natBelow bound expected o (.number l.numeral) = .ok k ↔ l = ofNat k ∧ k < bound := by
  constructor
  · intro h
    obtain ⟨v, hv, h⟩ := exists_of_bind_eq_ok h
    cases v with
    | nat n =>
      dsimp only at h
      split at h
      · next hlt =>
        obtain rfl := Except.ok.inj h
        exact ⟨(value_eq_nat_iff.1 hv).1, hlt⟩
      · cases h
    | negative n => cases h
    | float negative magnitude => cases h
  · rintro ⟨rfl, hk⟩
    exact natBelow_node expected hk (Nat.lt_of_lt_of_le hk h64)

/-- The literal of a number of 32 bits. -/
def ofWord32 (p : UInt32) : Literal := ofNat p.toNat

/-- The literal of a number of 64 bits. -/
def ofWord64 (p : UInt64) : Literal := ofNat p.toNat

theorem ofWord32_injective : Function.Injective ofWord32 := fun _ _ h ↦
  UInt32.toNat_inj.1 (ofNat_inj h)

theorem ofWord64_injective : Function.Injective ofWord64 := fun _ _ h ↦
  UInt64.toNat_inj.1 (ofNat_inj h)

theorem fits32_iff : l.Fits bound32 ↔ ∃ p, ofWord32 p = l := by
  constructor
  · rintro ⟨k, hk, rfl⟩
    exact ⟨UInt32.ofNat k, by rw [ofWord32, UInt32.toNat_ofNat_of_lt' hk]⟩
  · rintro ⟨p, rfl⟩
    exact ⟨p.toNat, p.toNat_lt, rfl⟩

theorem fits64_iff : l.Fits bound64 ↔ ∃ p, ofWord64 p = l := by
  constructor
  · rintro ⟨k, hk, rfl⟩
    exact ⟨UInt64.ofNat k, by rw [ofWord64, UInt64.toNat_ofNat_of_lt' hk]⟩
  · rintro ⟨p, rfl⟩
    exact ⟨p.toNat, p.toNat_lt, rfl⟩

theorem word32_eq_ok_iff {p : UInt32} : word32 o (.number l.numeral) = .ok p ↔ l = ofWord32 p := by
  constructor
  · intro h
    obtain ⟨k, hk, rfl⟩ := exists_of_map_eq_ok h
    obtain ⟨rfl, hlt⟩ := (natBelow_eq_ok_iff (by decide)).1 hk
    rw [ofWord32, UInt32.toNat_ofNat_of_lt' hlt]
  · rintro rfl
    exact restores_word32 o p

theorem word64_eq_ok_iff {p : UInt64} : word64 o (.number l.numeral) = .ok p ↔ l = ofWord64 p := by
  constructor
  · intro h
    obtain ⟨k, hk, rfl⟩ := exists_of_map_eq_ok h
    obtain ⟨rfl, hlt⟩ := (natBelow_eq_ok_iff (Nat.le_refl bound64)).1 hk
    rw [ofWord64, UInt64.toNat_ofNat_of_lt' hlt]
  · rintro rfl
    exact restores_word64 o p

/-! ### Numbers as keys -/

/-- A literal between the quotes of a key, each character standing for itself. -/
def key (l : Literal) : StringToken := ⟨l.chars.map .plain, .closed⟩

/-- The key of a number is what is written for it. -/
theorem key_ofNat (n : Nat) : (ofNat n).key = .ofString (String.ofList (digits n)) :=
  (ofString_digits n).symm

theorem natKey_eq_ok_iff {room : Nat} (h64 : bound ≤ bound64) :
    natKey bound expected (.live room) l.key = .ok k ↔ l = ofNat k ∧ k < bound := by
  have hkey : quotedNat bound expected l.key = natBelow bound expected .kept (.number l.numeral) :=
    quotedNat_of_spells l.spells bound expected
  rw [natKey, hkey, natBelow_eq_ok_iff h64]

/-- A tree that is a literal. -/
def WrittenAs (l : Literal) (n : Node) : Prop := n = .number l.numeral

end Literal

/-! ### Decoders that read exactly -/

/-- **A decoder reads exactly some of what may be written**: in place of all that may stand there,
what is written of a thing, which is read as its value. -/
structure ReadsExactly {α κ ε : Type} (decode : Decoder α) (o : Origin) (Written : κ → Node → Prop)
    (write : ε → κ) (value : ε → α) : Prop where
  /-- What is written of a thing is read, -/
  read {e : ε} {n : Node} (hskip : n.skip = .ok ()) (h : Written (write e) n) :
    decode o n = .ok (value e)
  /-- and what is read is written of some thing. -/
  only {w : κ} {n : Node} {a : α} (hskip : n.skip = .ok ()) (h : Written w n)
    (hread : decode o n = .ok a) : ∃ e, w = write e

variable {o o' : Origin}

theorem readsExactly_word32 : ReadsExactly word32 o Literal.WrittenAs Literal.ofWord32 id where
  read _ h := h ▸ restores_word32 o _
  only _ h hread := ⟨_, Literal.word32_eq_ok_iff.1 (h ▸ hread)⟩

theorem readsExactly_word64 : ReadsExactly word64 o Literal.WrittenAs Literal.ofWord64 id where
  read _ h := h ▸ restores_word64 o _
  only _ h hread := ⟨_, Literal.word64_eq_ok_iff.1 (h ▸ hread)⟩

/-- **An array with one item for each of a list.** -/
def ListOf {κ : Type} (Written : κ → Node → Prop) (l : List κ) (n : Node) : Prop :=
  ∃ ns, List.Forall₂ Written l ns ∧ n = .array ns .closed

/-- **An object with one member for each of a list**, whose keys and values are literals. -/
def EntriesOf (l : List (Literal × Literal)) (n : Node) : Prop :=
  n = .object (l.map fun e ↦ (e.1.key, .number e.2.numeral)) .closed

namespace ReadsExactly

variable {α β κ ε : Type} {decode : Decoder α} {Written : κ → Node → Prop} {write : ε → κ}
  {value : ε → α}

theorem eq_ok_iff (h : ReadsExactly decode o Written write value) {w : κ} {n : Node} {a : α}
    (hskip : n.skip = .ok ()) (hw : Written w n) :
    decode o n = .ok a ↔ ∃ e, w = write e ∧ a = value e := by
  constructor
  · intro hread
    obtain ⟨e, rfl⟩ := h.only hskip hw hread
    exact ⟨e, rfl, Except.ok.inj (hread.symm.trans (h.read hskip hw))⟩
  · rintro ⟨e, rfl, rfl⟩
    exact h.read hskip hw

theorem map (h : ReadsExactly decode o Written write value) (g : α → β) :
    ReadsExactly (fun o n ↦ g <$> decode o n) o Written write (g ∘ value) where
  read hskip hw := congrArg (g <$> ·) (h.read hskip hw)
  only hskip hw hread := by
    obtain ⟨a, ha, -⟩ := exists_of_map_eq_ok hread
    exact h.only hskip hw ha

theorem eachItem_eq (h : ReadsExactly decode o Written write value) {es : List ε} {ns : List Node}
    (hskip : ∀ n ∈ ns, n.skip = .ok ()) (hw : List.Forall₂ Written (es.map write) ns) :
    eachItem decode o ns = .ok (es.map value) := by
  induction es generalizing ns with
  | nil =>
    cases hw
    rfl
  | cons e es ih =>
    obtain _ | ⟨hn, hw⟩ := hw
    rw [List.forall_mem_cons] at hskip
    rw [eachItem, h.read hskip.1 hn, ih hskip.2 hw]
    rfl

theorem exists_of_eachItem_eq (h : ReadsExactly decode o Written write value) {ws : List κ}
    {ns : List Node} (hskip : ∀ n ∈ ns, n.skip = .ok ()) (hw : List.Forall₂ Written ws ns)
    {vs : List α} (hread : eachItem decode o ns = .ok vs) : ∃ es : List ε, ws = es.map write := by
  induction hw generalizing vs with
  | nil => exact ⟨[], rfl⟩
  | cons hn _ ih =>
    rw [List.forall_mem_cons] at hskip
    obtain ⟨v, hv, hread⟩ := exists_of_bind_eq_ok hread
    obtain ⟨vs, hvs, -⟩ := exists_of_bind_eq_ok hread
    obtain ⟨e, rfl⟩ := h.only hskip.1 hn hv
    obtain ⟨es, rfl⟩ := ih hskip.2 hvs
    exact ⟨e :: es, rfl⟩

/-- **A list is read exactly if its items are.** -/
theorem list (henter : o.enter = .ok o') (h : ReadsExactly decode o' Written write value) :
    ReadsExactly (list decode) o (ListOf Written) (List.map write) (List.map value) where
  read hskip hw := by
    obtain ⟨ns, hns, rfl⟩ := hw
    have hitems := h.eachItem_eq (Node.skip_array_iff.1 hskip) hns
    rw [Json.list, henter]
    simp only [bind, Except.bind, hitems]
    rfl
  only hskip hw hread := by
    obtain ⟨ns, hns, rfl⟩ := hw
    obtain ⟨inside, ho, hread⟩ := exists_of_bind_eq_ok hread
    obtain rfl : o' = inside := Except.ok.inj (henter.symm.trans ho)
    obtain ⟨vs, hvs, -⟩ := exists_of_bind_eq_ok hread
    exact h.exists_of_eachItem_eq (Node.skip_array_iff.1 hskip) hns hvs

/-- **A field of an object that is read is read exactly**, unless it is missing. -/
theorem only_of_fields (h : ReadsExactly decode o Written write value)
    {field? : String → Option (Decoder β)} {expected : List Expected}
    {ms : List (StringToken × Node)} {vs : List β} (hlists : Lists expected ms)
    (hskip : ∀ m ∈ ms, m.2.skip = .ok ()) (hfields : fields field? o .closed [] ms = .ok vs)
    {name : String} {w : κ} {MayLack : Prop} (he : ⟨name, Written w, MayLack⟩ ∈ expected)
    {wrap : α → β} (hname : field? name = some fun o n ↦ wrap <$> decode o n) :
    MayLack ∨ ∃ e, w = write e := by
  refine (hlists.exists_of_fields_eq hfields he hname).imp_right ?_
  rintro ⟨m, hm, hw, v, hv⟩
  obtain ⟨a, ha, -⟩ := exists_of_map_eq_ok hv
  exact h.only (hskip m hm) hw ha

end ReadsExactly

/-! ### Maps keyed by numbers -/

/-- What is written for a map is an object of literals. -/
theorem entriesOf_node (es : List (UInt32 × UInt64)) :
    EntriesOf (es.map (Prod.map Literal.ofWord32 Literal.ofWord64))
      (Value.object (es.map fun e ↦ (String.ofList (digits e.1.toNat), .nat e.2.toNat))).node := by
  rw [EntriesOf, List.map_map, Value.node]
  congr 1
  induction es with
  | nil => rfl
  | cons e es ih =>
    rw [List.map_cons, Value.memberNodes, ih, List.map_cons, ← Literal.key_ofNat]
    rfl

theorem exists_of_eachEntry_eq {room : Nat} {ws : List (Literal × Literal)}
    {vs : List (Nat × UInt64)}
    (h : eachEntry (natKey bound32 "u32" (.live room)) word64 (.live room)
      (ws.map fun e ↦ (e.1.key, .number e.2.numeral)) = .ok vs) :
    ∃ es : List (UInt32 × UInt64), ws = es.map (Prod.map Literal.ofWord32 Literal.ofWord64) := by
  induction ws generalizing vs with
  | nil => exact ⟨[], rfl⟩
  | cons w ws ih =>
    obtain ⟨key, value⟩ := w
    obtain ⟨k, hk, h⟩ := exists_of_bind_eq_ok h
    obtain ⟨v, hv, h⟩ := exists_of_bind_eq_ok h
    obtain ⟨vs, hvs, -⟩ := exists_of_bind_eq_ok h
    obtain ⟨rfl, hlt⟩ := (Literal.natKey_eq_ok_iff (by decide)).1 hk
    obtain rfl := Literal.word64_eq_ok_iff.1 hv
    obtain ⟨es, rfl⟩ := ih hvs
    refine ⟨(UInt32.ofNat k, v) :: es, ?_⟩
    rw [List.map_cons, Prod.map, Literal.ofWord32, UInt32.toNat_ofNat_of_lt' hlt]

/-- **A map is read exactly**, its keys like its values. -/
theorem readsExactly_wordMap (room : Nat) :
    ReadsExactly (wordMap word64) (.live (room + 1)) EntriesOf
      (List.map (Prod.map Literal.ofWord32 Literal.ofWord64)) id where
  read {es n} _ h := by
    rw [h, ← entriesOf_node es]
    exact (restores_word64 (.live room)).wordMap es
  only {ws n a} _ h hread := by
    rw [h] at hread
    obtain ⟨vs, hvs, -⟩ := exists_of_bind_eq_ok (x := eachEntry _ word64 (.live room) _) hread
    exact exists_of_eachEntry_eq hvs

end TraceReconciler.Json
