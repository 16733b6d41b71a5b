import TraceReconciler.Json.Numeral
import TraceReconciler.Json.StringToken
import TraceReconciler.Json.Value
import TraceReconciler.Proofs.Outcome

/-!
# Tokens as they may be written

A text puts brackets, commas and blanks between two kinds of tokens that say something: strings and
numbers. Which texts are such a token is said here by a grammar, and the scanners split off exactly
the token that stands at the start.

* **Strings.** Between its quotes a string is a list of pieces: characters that stand for
  themselves, letters behind a backslash, and units of four hexadecimal digits (`SpellsPieces`). The
  pieces stand for characters (`Joins`) unless a unit is half of a pair. Every string is scanned up
  to its closing quote (`SpellsString.exists_scan`), and it has a value just if it stands for a
  text, which then is its value (`StringToken.value_eq_ok_iff`).
* **Numbers.** A numeral has a sign, digits, a fraction and an exponent, three of which may be
  missing (`SpellsNumeral`). It ends where no digit, point or exponent goes on (`Numeral.Ends`), and
  it is scanned whole (`SpellsNumeral.scan_eq`). The digits before the point are those of the number
  that they stand for (`SpellsWhole.digits_eq`).

A writer has one spelling for each string and for each natural number, which is one of these
(`spellsString_stringText`, `spellsNumeral_digits`); it is read as what was written
(`StringToken.value_ofString`, `Numeral.value_ofNat`).
-/

namespace TraceReconciler.Json

open Text (digits digitsValue isDigit)

/-! ### Strings -/

/-- The letters that escape a character behind a backslash, each with this character. -/
def escapes : List (Char × Char) :=
  [('"', '"'), ('\\', '\\'), ('/', '/'), ('b', '\x08'), ('f', '\x0c'), ('n', '\n'), ('r', '\r'),
    ('t', '\t')]

/-- A hexadecimal digit in lower or upper case, and its value. -/
def IsHexDigit (c : Char) (n : Nat) : Prop :=
  "0123456789abcdef".toList[n]? = some c ∨ "0123456789ABCDEF".toList[n]? = some c

instance (c : Char) (n : Nat) : Decidable (IsHexDigit c n) := inferInstanceAs (Decidable (_ ∨ _))

/-- **What may stand between the quotes of a string**, piece by piece. -/
inductive SpellsPieces : List Char → List Piece → Prop
  | nil : SpellsPieces [] []
  | plain {c : Char} {cs : List Char} {ps : List Piece} (hquote : c ≠ '"') (hslash : c ≠ '\\')
      (hcontrol : 0x20 ≤ c.toNat) (h : SpellsPieces cs ps) :
      SpellsPieces (c :: cs) (.plain c :: ps)
  | escaped {e c : Char} {cs : List Char} {ps : List Piece} (he : (e, c) ∈ escapes)
      (h : SpellsPieces cs ps) : SpellsPieces ('\\' :: e :: cs) (.escaped c :: ps)
  | unit {w x y z : Char} {i j k l u : Nat} {cs : List Char} {ps : List Piece}
      (hw : IsHexDigit w i) (hx : IsHexDigit x j) (hy : IsHexDigit y k) (hz : IsHexDigit z l)
      (hu : u = ((i * 16 + j) * 16 + k) * 16 + l) (h : SpellsPieces cs ps) :
      SpellsPieces ('\\' :: 'u' :: w :: x :: y :: z :: cs) (.unit u :: ps)

/-- **A text is a string**, with its quotes. -/
inductive SpellsString : List Char → StringToken → Prop
  | intro {cs : List Char} {ps : List Piece} (h : SpellsPieces cs ps) :
      SpellsString ('"' :: (cs ++ ['"'])) ⟨ps, .closed⟩

/-- **The characters that pieces stand for.** Two units that are halves of a pair make one character
together, and no half may stand alone. -/
inductive Joins : List Piece → List Char → Prop
  | nil : Joins [] []
  | plain (c : Char) {ps : List Piece} {cs : List Char} (h : Joins ps cs) :
      Joins (.plain c :: ps) (c :: cs)
  | escaped (c : Char) {ps : List Piece} {cs : List Char} (h : Joins ps cs) :
      Joins (.escaped c :: ps) (c :: cs)
  | unit {u : Nat} {ps : List Piece} {cs : List Char} (hu : u < 0xD800 ∨ 0xDFFF < u)
      (h : Joins ps cs) : Joins (.unit u :: ps) (Char.ofNat u :: cs)
  | pair {u v : Nat} {ps : List Piece} {cs : List Char} (hu : 0xD800 ≤ u ∧ u ≤ 0xDBFF)
      (hv : 0xDC00 ≤ v ∧ v ≤ 0xDFFF) (h : Joins ps cs) :
      Joins (.unit u :: .unit v :: ps)
        (Char.ofNat (0x10000 + (u - 0xD800) * 0x400 + (v - 0xDC00)) :: cs)

namespace StringToken

/-- **A string stands for a text.** -/
def Denotes (t : StringToken) (s : String) : Prop := t.ending = .closed ∧ Joins t.pieces s.toList

/-! #### The scanner, piece by piece -/

theorem escape?_of_mem {e c : Char} (h : (e, c) ∈ escapes) : escape? e = some c := by
  have hall : ∀ x ∈ escapes, escape? x.1 = some x.2 := by decide
  exact hall _ h

theorem hexDigit?_of_isHexDigit {c : Char} {n : Nat} (h : IsHexDigit c n) :
    hexDigit? c = some n := by
  have hlower : ∀ n < 16, "0123456789abcdef".toList[n]?.map hexDigit? = some (some n) := by decide
  have hupper : ∀ n < 16, "0123456789ABCDEF".toList[n]?.map hexDigit? = some (some n) := by decide
  rcases h with h | h
  · have hn := hlower n (List.getElem?_eq_some_iff.1 h).1
    rw [h] at hn
    exact Option.some.inj hn
  · have hn := hupper n (List.getElem?_eq_some_iff.1 h).1
    rw [h] at hn
    exact Option.some.inj hn

theorem scan_quote (r : List Char) : scan ('"' :: r) = (⟨[], .closed⟩, r) := by
  rw [scan.eq_def]
  simp

theorem scan_plain {c : Char} (hquote : c ≠ '"') (hslash : c ≠ '\\') (hcontrol : ¬ c.toNat < 0x20)
    (r : List Char) : scan (c :: r) = ((scan r).1.cons (.plain c), (scan r).2) := by
  rw [scan.eq_def]
  simp [hquote, hslash, hcontrol]

theorem scan_escaped {e x : Char} (h : escape? e = some x) (r : List Char) :
    scan ('\\' :: e :: r) = ((scan r).1.cons (.escaped x), (scan r).2) := by
  have hu : e ≠ 'u' := by
    rintro rfl
    simp [escape?] at h
  rw [scan.eq_def]
  simp [hu, h]

theorem scan_unit {h₁ h₂ h₃ h₄ : Char} {u : Nat} (h : unit? h₁ h₂ h₃ h₄ = some u)
    (r : List Char) :
    scan ('\\' :: 'u' :: h₁ :: h₂ :: h₃ :: h₄ :: r) =
      ((scan r).1.cons (.unit u), (scan r).2) := by
  rw [scan.eq_def]
  simp [h]

end StringToken

/-- **A string is scanned whole**, up to its closing quote. -/
theorem SpellsPieces.scan_eq {cs : List Char} {ps : List Piece} (h : SpellsPieces cs ps)
    (rest : List Char) : StringToken.scan (cs ++ '"' :: rest) = (⟨ps, .closed⟩, rest) := by
  induction h with
  | nil => exact StringToken.scan_quote rest
  | plain hquote hslash hcontrol _ ih =>
    rw [List.cons_append, StringToken.scan_plain hquote hslash (Nat.not_lt.2 hcontrol), ih]
    rfl
  | escaped he _ ih =>
    rw [List.cons_append, List.cons_append,
      StringToken.scan_escaped (StringToken.escape?_of_mem he), ih]
    rfl
  | @unit w x y z i j k l u cs ps hw hx hy hz hu _ ih =>
    have hunit : StringToken.unit? w x y z = some u := by
      rw [StringToken.unit?, StringToken.hexDigit?_of_isHexDigit hw,
        StringToken.hexDigit?_of_isHexDigit hx, StringToken.hexDigit?_of_isHexDigit hy,
        StringToken.hexDigit?_of_isHexDigit hz, hu]
      rfl
    simp only [List.cons_append, StringToken.scan_unit hunit, ih]
    rfl

theorem SpellsString.exists_scan {ks : List Char} {t : StringToken} (h : SpellsString ks t)
    (rest : List Char) : ∃ r, ks ++ rest = '"' :: r ∧ StringToken.scan r = (t, rest) := by
  obtain ⟨hpieces⟩ := h
  exact ⟨_, by simp, hpieces.scan_eq rest⟩

theorem SpellsString.ending_eq {ks : List Char} {t : StringToken} (h : SpellsString ks t) :
    t.ending = .closed := by
  obtain ⟨-⟩ := h
  rfl

/-! #### The value -/

/-- A unit that is no half of a pair is a character. -/
theorem StringToken.join_unit {u : Nat} (hu : u < 0xD800 ∨ 0xDFFF < u) (ending : StringEnd)
    (r : List Piece) : join ending (.unit u :: r) = (Char.ofNat u :: ·) <$> join ending r := by
  have hlow : isLow u = false := by simp [isLow]; omega
  have hhigh : isHigh u = false := by simp [isHigh]; omega
  rw [join.eq_def]
  simp [hlow, hhigh]

/-- Two units that are the halves of a pair are a character. -/
theorem StringToken.join_pair {u v : Nat} (hu : 0xD800 ≤ u ∧ u ≤ 0xDBFF)
    (hv : 0xDC00 ≤ v ∧ v ≤ 0xDFFF) (ending : StringEnd) (r : List Piece) :
    join ending (.unit u :: .unit v :: r) = (pairChar u v :: ·) <$> join ending r := by
  have hlow : isLow u = false := by simp [isLow]; omega
  have hhigh : isHigh u = true := by simp [isHigh, hu]
  have hlow' : isLow v = true := by simp [isLow, hv]
  rw [join.eq_def]
  simp [hlow, hhigh, hlow']

theorem Joins.join_eq {ps : List Piece} {cs : List Char} (h : Joins ps cs) :
    StringToken.join .closed ps = .ok cs := by
  induction h with
  | nil => rfl
  | plain c _ ih =>
    rw [StringToken.join, ih]
    rfl
  | escaped c _ ih =>
    rw [StringToken.join, ih]
    rfl
  | unit hu _ ih =>
    rw [StringToken.join_unit hu, ih]
    rfl
  | pair hu hv _ ih =>
    rw [StringToken.join_pair hu hv, ih]
    rfl

namespace StringToken

/-- **The value of a string is the text that it stands for.** -/
theorem Denotes.value_eq {t : StringToken} {s : String} (h : t.Denotes s) : t.value = .ok s := by
  rw [value, h.1, h.2.join_eq]
  exact congrArg Except.ok String.ofList_toList

/-- **Characters are joined as the pieces stand for them**, and only if the string is closed. -/
theorem joins_of_join_eq {ending : StringEnd} {ps : List Piece} {cs : List Char}
    (h : join ending ps = .ok cs) : ending = .closed ∧ Joins ps cs := by
  fun_induction join ending ps generalizing cs with
  | case1 f hf => cases h
  | case2 hend =>
    obtain rfl := Except.ok.inj h
    refine ⟨?_, .nil⟩
    cases ending <;> first | rfl | cases hend
  | case3 c r ih =>
    obtain ⟨ds, hds, rfl⟩ := exists_of_map_eq_ok h
    exact ⟨(ih hds).1, .plain c (ih hds).2⟩
  | case4 c r ih =>
    obtain ⟨ds, hds, rfl⟩ := exists_of_map_eq_ok h
    exact ⟨(ih hds).1, .escaped c (ih hds).2⟩
  | case6 u hlow hhigh v r hlow' ih =>
    obtain ⟨ds, hds, rfl⟩ := exists_of_map_eq_ok h
    simp only [isHigh, isLow, Bool.and_eq_true, decide_eq_true_eq] at hhigh hlow'
    exact ⟨(ih hds).1, .pair hhigh hlow' (ih hds).2⟩
  | case10 u r hlow hhigh ih =>
    obtain ⟨ds, hds, rfl⟩ := exists_of_map_eq_ok h
    simp only [isHigh, isLow, Bool.and_eq_true, decide_eq_true_eq] at hhigh hlow
    exact ⟨(ih hds).1, .unit (by omega) (ih hds).2⟩
  | _ => cases h

theorem value_eq_ok_iff {t : StringToken} {s : String} : t.value = .ok s ↔ t.Denotes s := by
  refine ⟨fun h ↦ ?_, Denotes.value_eq⟩
  obtain ⟨cs, hcs, rfl⟩ := exists_of_map_eq_ok h
  obtain ⟨hending, hjoins⟩ := joins_of_join_eq hcs
  exact ⟨hending, by rwa [String.toList_ofList]⟩

/-- A string stands for one text. -/
theorem Denotes.unique {t : StringToken} {s s' : String} (h : t.Denotes s) (h' : t.Denotes s') :
    s = s' :=
  Except.ok.inj (h.value_eq.symm.trans h'.value_eq)

theorem Denotes.iff_eq {t : StringToken} {s s' : String} (h : t.Denotes s) :
    t.Denotes s' ↔ s = s' :=
  ⟨h.unique, fun heq ↦ heq ▸ h⟩

/-- **Half of a pair stands for no text.** -/
theorem not_denotes_half {u : Nat} (hu : 0xD800 ≤ u ∧ u ≤ 0xDFFF) (s : String) :
    ¬ Denotes ⟨[.unit u], .closed⟩ s := by
  rintro ⟨-, hjoins⟩
  generalize s.toList = cs at hjoins
  cases hjoins with
  | unit hwhole => omega

end StringToken

/-! #### Strings as they are written -/

/-- A character that is written by a backslash and a letter. -/
def HasLetter (c : Char) : Prop :=
  c = '"' ∨ c = '\\' ∨ c = '\x08' ∨ c = '\t' ∨ c = '\n' ∨ c = '\x0c' ∨ c = '\r'

instance (c : Char) : Decidable (HasLetter c) := inferInstanceAs (Decidable (_ ∨ _))

/-- How a character of a written string is read: by a letter, by its number, or as itself. -/
def Piece.ofChar (c : Char) : Piece :=
  if HasLetter c then .escaped c
  else if c.toNat < 0x20 then .unit c.toNat
  else .plain c

/-- **The three ways in which a character is written.** -/
theorem escapeChar_cases (c : Char) :
    (∃ e, escapeChar c = ['\\', e] ∧ (e, c) ∈ escapes ∧ HasLetter c) ∨
    (¬ HasLetter c ∧ c.toNat < 0x20 ∧
      escapeChar c = ['\\', 'u', '0', '0', hexChar (c.toNat / 16), hexChar (c.toNat % 16)]) ∨
    (¬ HasLetter c ∧ ¬ c.toNat < 0x20 ∧ escapeChar c = [c]) := by
  by_cases h : HasLetter c
  · left
    rcases h with rfl | rfl | rfl | rfl | rfl | rfl | rfl
    · exact ⟨'"', rfl, by decide, by decide⟩
    · exact ⟨'\\', rfl, by decide, by decide⟩
    · exact ⟨'b', rfl, by decide, by decide⟩
    · exact ⟨'t', rfl, by decide, by decide⟩
    · exact ⟨'n', rfl, by decide, by decide⟩
    · exact ⟨'f', rfl, by decide, by decide⟩
    · exact ⟨'r', rfl, by decide, by decide⟩
  · right
    have hne := h
    simp only [HasLetter, not_or] at hne
    obtain ⟨hquote, hslash, hb, ht, hn, hf, hr⟩ := hne
    by_cases hcontrol : c.toNat < 0x20
    · left
      refine ⟨h, hcontrol, ?_⟩
      simp [escapeChar, hquote, hslash, hb, ht, hn, hf, hr, hcontrol]
    · right
      refine ⟨h, hcontrol, ?_⟩
      simp [escapeChar, hquote, hslash, hb, ht, hn, hf, hr, hcontrol]

theorem isHexDigit_hexChar : ∀ n < 16, "0123456789abcdef".toList[n]? = some (hexChar n) := by
  decide

/-- A unit on its own is a string, also if it is half of a pair. -/
theorem spellsString_unit {u : Nat} (hu : u < 0x10000) :
    SpellsString ['"', '\\', 'u', hexChar (u / 0x1000), hexChar (u / 0x100 % 16),
      hexChar (u / 0x10 % 16), hexChar (u % 16), '"'] ⟨[.unit u], .closed⟩ := by
  have hdigit (n : Nat) (hn : n < 16) : IsHexDigit (hexChar n) n := .inl (isHexDigit_hexChar n hn)
  have hunit : u = ((u / 0x1000 * 16 + u / 0x100 % 16) * 16 + u / 0x10 % 16) * 16 + u % 16 := by
    omega
  exact .intro (.unit (hdigit _ (by omega)) (hdigit _ (by omega)) (hdigit _ (by omega))
    (hdigit _ (by omega)) hunit .nil)

/-- **The escape of a character is one piece.** -/
theorem spellsPieces_escapeChar (c : Char) {cs : List Char} {ps : List Piece}
    (h : SpellsPieces cs ps) : SpellsPieces (escapeChar c ++ cs) (.ofChar c :: ps) := by
  rcases escapeChar_cases c with ⟨e, hc, he, hletter⟩ | ⟨hletter, hcontrol, hc⟩ |
    ⟨hletter, hcontrol, hc⟩
  · have hpiece : Piece.ofChar c = .escaped c := if_pos hletter
    rw [hc, hpiece]
    exact .escaped he h
  · have hpiece : Piece.ofChar c = .unit c.toNat := by simp [Piece.ofChar, hletter, hcontrol]
    rw [hc, hpiece]
    exact .unit (i := 0) (j := 0) (.inl rfl) (.inl rfl) (.inl (isHexDigit_hexChar _ (by omega)))
      (.inl (isHexDigit_hexChar _ (by omega))) (by omega) h
  · have hpiece : Piece.ofChar c = .plain c := by simp [Piece.ofChar, hletter, hcontrol]
    rw [hc, hpiece]
    simp only [HasLetter, not_or] at hletter
    exact .plain hletter.1 hletter.2.1 (Nat.not_lt.1 hcontrol) h

theorem spellsPieces_escapeChars (cs : List Char) :
    SpellsPieces (escapeChars cs) (cs.map Piece.ofChar) := by
  induction cs with
  | nil => exact .nil
  | cons c cs ih => exact spellsPieces_escapeChar c ih

theorem joins_map_ofChar (cs : List Char) : Joins (cs.map Piece.ofChar) cs := by
  induction cs with
  | nil => exact .nil
  | cons c cs ih =>
    rw [List.map_cons, Piece.ofChar]
    split
    · exact .escaped c ih
    · split
      · next hcontrol =>
        have hunit := Joins.unit (u := c.toNat) (.inl (by omega)) ih
        rwa [Char.ofNat_toNat] at hunit
      · exact .plain c ih

namespace StringToken

/-- A string as it is read when it has been written. -/
def ofString (s : String) : StringToken := ⟨s.toList.map Piece.ofChar, .closed⟩

@[simp] theorem ofString_ending (s : String) : (ofString s).ending = .closed := rfl

theorem denotes_ofString (s : String) : (ofString s).Denotes s := ⟨rfl, joins_map_ofChar s.toList⟩

@[simp] theorem denotes_ofString_iff {s s' : String} : (ofString s).Denotes s' ↔ s = s' :=
  (denotes_ofString s).iff_eq

/-- **A string that is written and read is the same string.** -/
@[simp] theorem value_ofString (s : String) : (ofString s).value = .ok s :=
  (denotes_ofString s).value_eq

end StringToken

/-- **What is written for a string is a string.** -/
theorem spellsString_stringText (s : String) : SpellsString (stringText s) (.ofString s) :=
  .intro (spellsPieces_escapeChars s.toList)

/-! ### Numbers -/

/-- One or more digits. -/
def IsDigits (ds : List Char) : Prop := ds ≠ [] ∧ ∀ c ∈ ds, isDigit c = true

instance (ds : List Char) : Decidable (IsDigits ds) :=
  decidable_of_iff (ds ≠ [] ∧ ds.all isDigit = true) (by simp [IsDigits])

/-- The digits before the point: a zero, or some that do not begin with a zero. -/
inductive SpellsWhole : List Char → Prop
  | zero : SpellsWhole ['0']
  | positive {ds : List Char} (h : IsDigits ds) (hzero : ds.head? ≠ some '0') : SpellsWhole ds

/-- The point and the digits after it, or nothing. -/
inductive SpellsFraction : List Char → Option (List Char) → Prop
  | missing : SpellsFraction [] none
  | present {ds : List Char} (h : IsDigits ds) : SpellsFraction ('.' :: ds) (some ds)

/-- The sign of an exponent, and whether it is a minus. -/
inductive SpellsSign : List Char → Bool → Prop
  | missing : SpellsSign [] false
  | plus : SpellsSign ['+'] false
  | minus : SpellsSign ['-'] true

/-- The exponent with its letter and its sign, or nothing. -/
inductive SpellsExponent : List Char → Option (Bool × List Char) → Prop
  | missing : SpellsExponent [] none
  | present {mark : Char} {sign ds : List Char} {minus : Bool} (hmark : mark = 'e' ∨ mark = 'E')
      (hsign : SpellsSign sign minus) (h : IsDigits ds) :
      SpellsExponent (mark :: (sign ++ ds)) (some (minus, ds))

/-- **A text is a numeral.** -/
inductive SpellsNumeral : List Char → Numeral → Prop
  | intro (negative : Bool) {ws fs es : List Char} {fraction : Option (List Char)}
      {exponent : Option (Bool × List Char)} (hw : SpellsWhole ws) (hf : SpellsFraction fs fraction)
      (he : SpellsExponent es exponent) :
      SpellsNumeral ((if negative then ['-'] else []) ++ (ws ++ (fs ++ es)))
        ⟨negative, ws, fraction, exponent, none⟩

namespace Numeral

/-- A character that goes on with a numeral before it. -/
def goesOn (c : Char) : Bool := isDigit c || c == '.' || isExponentMark c

/-- A text with which no numeral before it goes on. -/
def Ends (rest : List Char) : Prop := ∀ c ∈ rest.head?, goesOn c = false

theorem Ends.cons {c : Char} (h : goesOn c = false) (r : List Char) : Ends (c :: r) := by
  intro d hd
  obtain rfl : c = d := Option.some.inj hd
  exact h

theorem Ends.ne {rest : List Char} (h : Ends rest) {c : Char} (hc : c ∈ rest.head?) :
    isDigit c = false ∧ c ≠ '.' ∧ isExponentMark c = false := by
  have hgoes := h c hc
  simp only [goesOn, Bool.or_eq_false_iff, beq_eq_false_iff_ne] at hgoes
  exact ⟨hgoes.1.1, hgoes.1.2, hgoes.2⟩

end Numeral

/-! #### The scanner, part by part -/

theorem ne_of_isDigit {c d : Char} (hc : isDigit c = true) (hd : isDigit d = false) : c ≠ d := by
  rintro rfl
  exact Bool.false_ne_true (hd.symm.trans hc)

theorem IsDigits.exists_cons {ds : List Char} (h : IsDigits ds) :
    ∃ c r, ds = c :: r ∧ isDigit c = true := by
  cases ds with
  | nil => exact absurd rfl h.1
  | cons c r => exact ⟨c, r, rfl, h.2 c List.mem_cons_self⟩

theorem IsDigits.isEmpty_eq {ds : List Char} (h : IsDigits ds) : ds.isEmpty = false := by
  simpa using h.1

section

variable {rest : List Char} (hrest : Numeral.Ends rest)

include hrest

theorem SpellsSign.scan_eq {sign ds : List Char} {minus : Bool} (h : SpellsSign sign minus)
    (hds : IsDigits ds) :
    Numeral.scanExponent (sign ++ (ds ++ rest)) = (some (minus, ds), none, rest) := by
  have htake := Numeral.takeWhile_isDigit_append hds.2 fun c hc ↦ (hrest.ne hc).1
  have hdrop := Numeral.dropWhile_isDigit_append hds.2 fun c hc ↦ (hrest.ne hc).1
  cases h with
  | missing =>
    obtain ⟨c, r, rfl, hc⟩ := hds.exists_cons
    have hminus : c ≠ '-' := ne_of_isDigit hc rfl
    have hplus : c ≠ '+' := ne_of_isDigit hc rfl
    rw [List.nil_append, Numeral.scanExponent]
    · simp only [htake, hdrop, hds.isEmpty_eq]
      rfl
    · intro r' hr'
      exact hminus (List.cons.inj hr').1
    · intro r' hr'
      exact hplus (List.cons.inj hr').1
  | plus => simp [Numeral.scanExponent, htake, hdrop, hds.isEmpty_eq]
  | minus => simp [Numeral.scanExponent, htake, hdrop, hds.isEmpty_eq]

theorem SpellsExponent.scan_eq {es : List Char} {exponent : Option (Bool × List Char)}
    (h : SpellsExponent es exponent) :
    Numeral.scanExponent? (es ++ rest) = (exponent, none, rest) := by
  cases h with
  | missing =>
    cases rest with
    | nil => rfl
    | cons c r =>
      have hmark := (hrest.ne (c := c) rfl).2.2
      simp [Numeral.scanExponent?, hmark]
  | @present mark sign ds minus hmark hsign hds =>
    have hmark' : Numeral.isExponentMark mark = true := by
      rcases hmark with rfl | rfl <;> rfl
    rw [List.cons_append, List.append_assoc, Numeral.scanExponent?, if_pos hmark',
      hsign.scan_eq hrest hds]

/-- Where the exponent begins, no digit and no point goes on. -/
theorem SpellsExponent.head_ne {es : List Char} {exponent : Option (Bool × List Char)}
    (h : SpellsExponent es exponent) {c : Char} (hc : c ∈ (es ++ rest).head?) :
    isDigit c = false ∧ c ≠ '.' := by
  cases h with
  | missing => exact ⟨(hrest.ne hc).1, (hrest.ne hc).2.1⟩
  | present hmark hsign hds =>
    obtain rfl : _ = c := Option.some.inj hc
    rcases hmark with rfl | rfl <;> exact ⟨rfl, by decide⟩

variable {fs es : List Char} {fraction : Option (List Char)}
  {exponent : Option (Bool × List Char)}

theorem SpellsFraction.scan_eq (h : SpellsFraction fs fraction) (he : SpellsExponent es exponent)
    (negative : Bool) (ws : List Char) :
    Numeral.scanAfterWhole negative ws (fs ++ (es ++ rest)) =
      (⟨negative, ws, fraction, exponent, none⟩, rest) := by
  have hscan := he.scan_eq hrest
  cases h with
  | missing =>
    rw [List.nil_append, Numeral.scanAfterWhole]
    · rw [hscan]
    · intro r hr
      exact (he.head_ne hrest (c := '.') (by rw [hr]; rfl)).2 rfl
  | present hds =>
    have htake := Numeral.takeWhile_isDigit_append hds.2 fun c hc ↦ (he.head_ne hrest hc).1
    have hdrop := Numeral.dropWhile_isDigit_append hds.2 fun c hc ↦ (he.head_ne hrest hc).1
    simp [Numeral.scanAfterWhole, htake, hdrop, hds.isEmpty_eq, hscan]

/-- Where the fraction begins, no digit goes on. -/
theorem SpellsFraction.head_ne (h : SpellsFraction fs fraction) (he : SpellsExponent es exponent)
    {c : Char} (hc : c ∈ (fs ++ (es ++ rest)).head?) : isDigit c = false := by
  cases h with
  | missing => exact (he.head_ne hrest hc).1
  | present hds =>
    obtain rfl : '.' = c := Option.some.inj hc
    rfl

end

theorem SpellsWhole.scan_eq {ws rest : List Char} (h : SpellsWhole ws)
    (hrest : ∀ c ∈ rest.head?, isDigit c = false) (negative : Bool) :
    Numeral.scanDigits negative (ws ++ rest) = Numeral.scanAfterWhole negative ws rest := by
  cases h with
  | zero =>
    -- The digits of zero are a branch of their own, since no digit may follow them.
    cases rest with
    | nil => rfl
    | cons c r => simp [Numeral.scanDigits, hrest c rfl]
  | positive hds hzero =>
    have htake := Numeral.takeWhile_isDigit_append hds.2 hrest
    have hdrop := Numeral.dropWhile_isDigit_append hds.2 hrest
    obtain ⟨c, r, rfl, hc⟩ := hds.exists_cons
    rw [Numeral.scanDigits]
    · simp only [htake, hdrop, hds.isEmpty_eq]
      rfl
    · intro r' hr'
      exact hzero (congrArg some (List.cons.inj hr').1)

theorem SpellsWhole.exists_cons {ws : List Char} (h : SpellsWhole ws) :
    ∃ c r, ws = c :: r ∧ isDigit c = true := by
  cases h with
  | zero => exact ⟨'0', [], rfl, rfl⟩
  | positive hds hzero => exact hds.exists_cons

/-- **A numeral is scanned whole**, if nothing after it goes on with it. -/
theorem SpellsNumeral.scan_eq {cs rest : List Char} {n : Numeral} (h : SpellsNumeral cs n)
    (hrest : Numeral.Ends rest) : Numeral.scan (cs ++ rest) = (n, rest) := by
  obtain ⟨negative, hw, hf, he⟩ := h
  have hscan := (hw.scan_eq (fun c hc ↦ hf.head_ne hrest he hc) negative).trans
    (hf.scan_eq hrest he negative _)
  simp only [List.append_assoc]
  cases negative with
  | true => exact hscan
  | false =>
    obtain ⟨c, r, rfl, hc⟩ := hw.exists_cons
    have hminus : c ≠ '-' := ne_of_isDigit hc rfl
    rw [if_neg Bool.false_ne_true, List.nil_append, Numeral.scan]
    · exact hscan
    · intro r' hr'
      exact hminus (List.cons.inj hr').1

theorem SpellsNumeral.flaw_eq {cs : List Char} {n : Numeral} (h : SpellsNumeral cs n) :
    n.flaw = none := by
  obtain ⟨-, -, -, -⟩ := h
  rfl

/-- A numeral begins with a minus or a digit. -/
theorem SpellsNumeral.exists_cons {cs : List Char} {n : Numeral} (h : SpellsNumeral cs n) :
    ∃ c r, cs = c :: r ∧ (c = '-' ∨ isDigit c = true) := by
  obtain ⟨negative, hw, hf, he⟩ := h
  cases negative with
  | true => exact ⟨'-', _, rfl, .inl rfl⟩
  | false =>
    obtain ⟨c, r, rfl, hc⟩ := hw.exists_cons
    exact ⟨c, _, rfl, .inr hc⟩

/-! #### The value of digits -/

theorem exists_digitChar_of_isDigit {c : Char} (h : isDigit c = true) :
    ∃ d < 10, c = Nat.digitChar d := by
  have hall : ∀ d < 10, Char.ofNat (48 + d) = Nat.digitChar d := by decide
  simp only [isDigit, Bool.and_eq_true, decide_eq_true_eq] at h
  have hbounds : 48 ≤ c.toNat ∧ c.toNat ≤ 57 := h
  refine ⟨c.toNat - 48, by omega, ?_⟩
  rw [← hall _ (by omega), Nat.add_sub_cancel' hbounds.1, Char.ofNat_toNat]

/-- Digits that follow those of a number which is not zero are written behind them. -/
theorem digits_ofDigitChars {ds : List Char} (h : ∀ c ∈ ds, isDigit c = true) {n : Nat}
    (hn : 0 < n) : digits (Nat.ofDigitChars 10 ds n) = digits n ++ ds := by
  induction ds generalizing n with
  | nil => rw [Nat.ofDigitChars_nil, List.append_nil]
  | cons c ds ih =>
    rw [List.forall_mem_cons] at h
    obtain ⟨d, hd, rfl⟩ := exists_digitChar_of_isDigit h.1
    have hlast : digits (10 * n + d) = digits n ++ [Nat.digitChar d] := by
      rw [digits, ← Nat.toDigits_append_toDigits (by decide) hn hd, Nat.toDigits_of_lt_base hd]
      rfl
    rw [Nat.ofDigitChars_cons_digitChar_of_lt_ten hd, ih h.2 (by omega), hlast, List.append_assoc]
    rfl

/-- **The digits before the point are those of the number that they stand for.** -/
theorem SpellsWhole.digits_eq {ws : List Char} (h : SpellsWhole ws) :
    digits (digitsValue ws) = ws := by
  cases h with
  | zero => rfl
  | positive hds hzero =>
    obtain ⟨c, r, rfl, hc⟩ := hds.exists_cons
    obtain ⟨d, hd, rfl⟩ := exists_digitChar_of_isDigit hc
    have hpos : 0 < d := by
      rw [Nat.pos_iff_ne_zero]
      rintro rfl
      exact hzero rfl
    rw [digitsValue, Nat.ofDigitChars_cons_digitChar_of_lt_ten hd, Nat.mul_zero, Nat.zero_add,
      digits_ofDigitChars (fun c hc ↦ hds.2 c (List.mem_cons_of_mem _ hc)) hpos, digits,
      Nat.toDigits_of_lt_base hd]
    rfl

/-! #### Numbers as they are written -/

namespace Numeral

/-- A natural number as it is read when it has been written. -/
def ofNat (n : Nat) : Numeral := ⟨false, digits n, none, none, none⟩

/-- A number that is not zero does not begin with a zero. -/
theorem head?_digits_ne_zero {n : Nat} (h : 0 < n) : (digits n).head? ≠ some '0' := by
  induction n using Nat.strongRecOn with
  | _ n ih =>
    by_cases hn : n < 10
    · have hdigit : ∀ k < 10, 0 < k → [Nat.digitChar k].head? ≠ some '0' := by decide
      rw [digits, Nat.toDigits_of_lt_base hn]
      exact hdigit n hn h
    · have hne := ih (n / 10) (by omega) (by omega)
      rw [digits, Nat.toDigits_of_base_le (by omega) (by omega), List.head?_append]
      cases hd : (digits (n / 10)).head? with
      | none => exact absurd (List.head?_eq_none_iff.1 hd) (Text.digits_ne_nil _)
      | some c =>
        rw [hd] at hne
        rw [← digits, hd]
        exact hne

theorem isDigits_digits (n : Nat) : IsDigits (digits n) :=
  ⟨Text.digits_ne_nil n, fun _ hc ↦ Text.isDigit_of_mem_digits hc⟩

theorem spellsWhole_digits (n : Nat) : SpellsWhole (digits n) := by
  rcases Nat.eq_zero_or_pos n with rfl | hn
  · exact .zero
  · exact .positive (isDigits_digits n) (head?_digits_ne_zero hn)

/-- **The digits of a number are a numeral.** -/
theorem spellsNumeral_digits (n : Nat) : SpellsNumeral (digits n) (ofNat n) := by
  have h := SpellsNumeral.intro false (spellsWhole_digits n) .missing .missing
  rwa [List.append_nil, List.append_nil] at h

/-- **A number of 64 bits that is written and read is the same number.** -/
theorem value_ofNat {n : Nat} (h : n < Text.bound64) : (ofNat n).value = .ok (.nat n) := by
  have hwhole : (ofNat n).whole? = some (.nat n) := by
    simp [whole?, ofNat, Text.digitsValue_digits, h]
  have hflaw : (ofNat n).flaw = none := rfl
  rw [value, hflaw, hwhole]

end Numeral

end TraceReconciler.Json
