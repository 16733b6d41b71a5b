import Mathlib.Data.String.Basic
import Mathlib.Order.Monotone.Basic
import Mathlib.Order.RelIso.Basic
import Mathlib.Tactic.SplitIfs
import TraceReconciler.Text.Utf8

/-!
# The order of texts and of their octets

Texts are compared character by character, by code point. Their UTF-8 forms, compared octet by
octet, come in the same order (`Text.octets_lt_iff`), so it does not matter which of the two a
collection is sorted by.

This is a property of UTF-8 and not of encodings as such: in sixteen-bit units a character beyond
U+FFFF begins with a unit below U+E000. It rests on two facts, one for each part of the octets of a
character.

* The **first octet** tells how many follow, and more octets have a higher mark. So of two
  characters of different length the longer one, which has the higher code point, has the higher
  first octet (`Text.firstOctet_lt_lengthMark`).
* The **further octets** are the last digits of the code point to the base 64, the highest one
  first. So characters of one length come in the order of their code points
  (`Text.furtherOctets_append_lt`).

Since the octets of a character are never the beginning of those of another, the first characters
that differ decide between two texts, whatever follows them.
-/

namespace TraceReconciler.Text

open String (utf8EncodeChar)

/-- The octets of a text. -/
def octets (s : String) : List UInt8 := s.toUTF8.data.toList

/-- The code points of a text. -/
def codePoints (s : String) : List Nat := s.toList.map Char.toNat

/-! ### The octets of a character -/

/-- How many octets follow the first one of a code point. -/
def following (v : Nat) : Nat :=
  if v ≤ 0x7F then 0 else if v ≤ 0x7FF then 1 else if v ≤ 0xFFFF then 2 else 3

/-- What is added to the first octet to tell how many follow. -/
def lengthMark : Nat → Nat
  | 0 => 0
  | 1 => 0xC0
  | 2 => 0xE0
  | 3 => 0xF0
  | _ => 0xF8

/-- The number in the first octet: the highest digit of the code point, with the mark of the
length. -/
def firstOctet (v : Nat) : Nat := v / 64 ^ following v + lengthMark (following v)

/-- The last `k` digits of a code point to the base 64, each with the mark of a further octet. -/
def furtherOctets : Nat → Nat → List UInt8
  | 0, _ => []
  | k + 1, v => furtherOctets k (v / 64) ++ [UInt8.ofNat (v % 64 + 0x80)]

theorem toNat_lt (c : Char) : c.toNat < 0x110000 := by
  rcases (show c.toNat.isValidChar from c.valid) with h | h <;> omega

theorem utf8EncodeChar_eq (c : Char) :
    utf8EncodeChar c =
      UInt8.ofNat (firstOctet c.toNat) :: furtherOctets (following c.toNat) c.toNat := by
  have hlt : c.val.toNat < 0x110000 := toNat_lt c
  rw [utf8EncodeChar, Char.toNat, firstOctet, following]
  generalize c.val.toNat = v at *
  have hdigits : v / 64 / 64 = v / 4096 := Nat.div_div_eq_div_mul ..
  -- A code point of a given length leaves no more than the digit that fits beside the mark.
  split_ifs with h₁ h₂ h₃
  · simp [furtherOctets, lengthMark]
  · have hfirst : v / 64 % 32 = v / 64 := Nat.mod_eq_of_lt (by omega)
    simp [furtherOctets, lengthMark, hfirst]
  · have hfirst : v / 4096 % 16 = v / 4096 := Nat.mod_eq_of_lt (by omega)
    simp [furtherOctets, lengthMark, hfirst]
  · have hfirst : v / 262144 % 8 = v / 262144 := Nat.mod_eq_of_lt (by omega)
    simp [furtherOctets, lengthMark, hfirst, hdigits]

/-! ### The first octet -/

theorem following_mono {v w : Nat} (h : v ≤ w) : following v ≤ following w := by
  rw [following, following]
  split_ifs <;> omega

theorem following_le (v : Nat) : following v ≤ 3 := by
  rw [following]
  split_ifs <;> omega

theorem lengthMark_mono : Monotone lengthMark := monotone_nat_of_le_succ fun k ↦ by
  match k with
  | 0 | 1 | 2 | 3 | _ + 4 => simp [lengthMark]

/-- **The first octet stays below the marks of greater lengths.** -/
theorem firstOctet_lt_lengthMark {v : Nat} (h : v < 0x110000) :
    firstOctet v < lengthMark (following v + 1) := by
  rw [firstOctet, following]
  split_ifs <;> simp only [lengthMark, Nat.reducePow] <;> omega

theorem firstOctet_lt_size {v : Nat} (h : v < 0x110000) : firstOctet v < UInt8.size :=
  calc
    firstOctet v < lengthMark (following v + 1) := firstOctet_lt_lengthMark h
    _ ≤ lengthMark 4 := lengthMark_mono (Nat.succ_le_succ (following_le v))
    _ ≤ UInt8.size := by decide

/-- **The first octet decides, or nothing but the further octets differs.** -/
theorem firstOctet_lt_or_rest {v w : Nat} (hv : v < 0x110000) (h : v < w) :
    firstOctet v < firstOctet w ∨
      following v = following w ∧ v / 64 ^ following v = w / 64 ^ following v := by
  rcases (following_mono h.le).lt_or_eq with hlength | hlength
  · left
    calc
      firstOctet v < lengthMark (following v + 1) := firstOctet_lt_lengthMark hv
      _ ≤ lengthMark (following w) := lengthMark_mono hlength
      _ ≤ firstOctet w := Nat.le_add_left _ _
  · have hhigh : v / 64 ^ following v ≤ w / 64 ^ following v := Nat.div_le_div_right h.le
    rcases hhigh.lt_or_eq with hhigh | hhigh
    · left
      rw [firstOctet, firstOctet, ← hlength]
      exact Nat.add_lt_add_right hhigh _
    · exact .inr ⟨hlength, hhigh⟩

/-! ### The further octets -/

/-- **Digits decide where the rest of two numbers is the same.** -/
theorem furtherOctets_append_lt {k v w : Nat} (h : v < w) (hrest : v / 64 ^ k = w / 64 ^ k)
    (r s : List UInt8) : furtherOctets k v ++ r < furtherOctets k w ++ s := by
  induction k generalizing v w r s with
  | zero =>
    rw [Nat.pow_zero, Nat.div_one, Nat.div_one] at hrest
    exact absurd hrest (Nat.ne_of_lt h)
  | succ k ih =>
    rw [Nat.pow_succ', ← Nat.div_div_eq_div_mul, ← Nat.div_div_eq_div_mul] at hrest
    rw [furtherOctets, furtherOctets, List.append_assoc, List.append_assoc]
    rcases Nat.lt_or_ge (v / 64) (w / 64) with hhigh | hhigh
    · exact ih hhigh hrest _ _
    · -- Only the last digit differs.
      have heq : v / 64 = w / 64 := by omega
      have hlast : UInt8.ofNat (v % 64 + 0x80) < UInt8.ofNat (w % 64 + 0x80) := by
        rw [UInt8.lt_iff_toNat_lt, UInt8.toNat_ofNat', UInt8.toNat_ofNat']
        omega
      rw [heq]
      exact List.append_left_lt (.rel hlast)

/-! ### Texts -/

/-- **Two characters that differ decide between their octets**, whatever follows. -/
theorem utf8EncodeChar_append_lt {c d : Char} (h : c < d) (r s : List UInt8) :
    utf8EncodeChar c ++ r < utf8EncodeChar d ++ s := by
  have hlt : c.toNat < d.toNat := h
  have hc := toNat_lt c
  have hd := toNat_lt d
  rw [utf8EncodeChar_eq, utf8EncodeChar_eq]
  generalize c.toNat = v at *
  generalize d.toNat = w at *
  rcases firstOctet_lt_or_rest hc hlt with hfirst | ⟨hlength, hrest⟩
  · refine .rel ?_
    rwa [UInt8.lt_iff_toNat_lt, UInt8.toNat_ofNat_of_lt' (firstOctet_lt_size hc),
      UInt8.toNat_ofNat_of_lt' (firstOctet_lt_size hd)]
  · have hfirst : firstOctet v = firstOctet w := by
      rw [firstOctet, firstOctet, ← hlength, hrest]
    rw [hfirst, ← hlength]
    exact .cons (furtherOctets_append_lt hlt hrest r s)

theorem flatMap_utf8EncodeChar_lt {l m : List Char} (h : l < m) :
    l.flatMap utf8EncodeChar < m.flatMap utf8EncodeChar := by
  induction h with
  | nil =>
    rw [List.flatMap_cons, utf8EncodeChar_eq]
    exact .nil
  | rel h => exact utf8EncodeChar_append_lt h _ _
  | cons _ ih => exact List.append_left_lt ih

/-- Octets keep the order of texts. -/
def octetOrder :
    ((· < ·) : String → String → Prop) ↪r ((· < ·) : List UInt8 → List UInt8 → Prop) :=
  .ofMonotone octets fun s t h ↦ by
    rw [octets, octets, toList_toUTF8, toList_toUTF8]
    exact flatMap_utf8EncodeChar_lt (String.lt_iff_toList_lt.1 h)

/-- Code points keep the order of texts. -/
def codePointOrder :
    ((· < ·) : String → String → Prop) ↪r ((· < ·) : List Nat → List Nat → Prop) :=
  .ofMonotone codePoints fun _ _ h ↦
    List.map_lt (fun _ _ h ↦ h) (String.lt_iff_toList_lt.1 h)

/-- **Texts come in the order of their octets.** -/
theorem octets_lt_iff {s t : String} : octets s < octets t ↔ s < t := octetOrder.map_rel_iff

theorem octets_inj {s t : String} : octets s = octets t ↔ s = t := octetOrder.injective.eq_iff

/-- **Texts come in the order of their code points.** -/
theorem codePoints_lt_iff {s t : String} : codePoints s < codePoints t ↔ s < t :=
  codePointOrder.map_rel_iff

/-- A character beyond U+FFFF comes after U+FFFF, which it would not in sixteen-bit units. -/
example : octets "\uffff" < octets "😀" := by decide

end TraceReconciler.Text
