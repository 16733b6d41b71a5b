/-!
# Text in octets

Octets that are a text in UTF-8 are that text. A reader that goes line by line sees the text up to
the first line that is none (`leadingText`); one that must answer for any octets puts the
replacement character for what is not (`lossy`). A replacement stands for the longest run of octets
that begins a character and cannot be continued, or for one octet where no character begins.
-/

namespace TraceReconciler.Text

/-- The text whose UTF-8 form the octets are. -/
def ofUtf8? (octets : ByteArray) : Option String := String.fromUTF8? octets

/-- **A text in octets is that text.** -/
theorem ofUtf8?_toUTF8 (s : String) : ofUtf8? s.toUTF8 = some s := dif_pos s.isValidUTF8

/-- The octets of a text are those of its characters, one after another. -/
theorem toList_toUTF8 (s : String) :
    s.toUTF8.data.toList = s.toList.flatMap String.utf8EncodeChar :=
  calc
    s.toUTF8.data.toList = (String.ofList s.toList).toByteArray.data.toList := by
      rw [String.ofList_toList]
      rfl
    _ = s.toList.flatMap String.utf8EncodeChar := by
      rw [String.toByteArray_ofList, List.utf8Encode]
      simp

/-- The octets up to each end of a line, which is kept. -/
def octetLines : List UInt8 → List (List UInt8)
  | [] => []
  | b :: r =>
    if b = 0x0A then [b] :: octetLines r
    else
      match octetLines r with
      | [] => [[b]]
      | l :: ls => (b :: l) :: ls

/-- The text of some lines up to the first that is none. -/
def textOfLines : List (List UInt8) → String
  | [] => ""
  | l :: ls =>
    match ofUtf8? ⟨l.toArray⟩ with
    | none => ""
    | some s => s ++ textOfLines ls

/-- **The text that octets begin with**, up to the first line that is no text. -/
def leadingText (octets : ByteArray) : String := textOfLines (octetLines octets.data.toList)

/-- An octet that continues a character. -/
def isTail (b : UInt8) : Bool := 0x80 ≤ b && b ≤ 0xBF

/-- The second octets that may follow the first octet of a character of three octets. -/
def secondOfThree (a b : UInt8) : Bool :=
  if a = 0xE0 then 0xA0 ≤ b && b ≤ 0xBF
  else if a = 0xED then 0x80 ≤ b && b ≤ 0x9F
  else isTail b

/-- The second octets that may follow the first octet of a character of four octets. -/
def secondOfFour (a b : UInt8) : Bool :=
  if a = 0xF0 then 0x90 ≤ b && b ≤ 0xBF
  else if a = 0xF4 then 0x80 ≤ b && b ≤ 0x8F
  else isTail b

/-- The character put for octets that are none. -/
def replacement : Char := '\uFFFD'

/-- The value carried by the low `bits` bits of an octet. -/
def lowBits (bits : Nat) (b : UInt8) : Nat := b.toNat % Nat.pow 2 bits

/-- The characters of any octets, with the replacement character where they are not UTF-8. -/
def lossyChars : List UInt8 → List Char
  | [] => []
  | a :: r =>
    if a < 0x80 then Char.ofNat a.toNat :: lossyChars r
    else if 0xC2 ≤ a ∧ a ≤ 0xDF then
      match r with
      | [] => [replacement]
      | b :: r₁ =>
        if isTail b then Char.ofNat (lowBits 5 a * 64 + lowBits 6 b) :: lossyChars r₁
        else replacement :: lossyChars (b :: r₁)
    else if 0xE0 ≤ a ∧ a ≤ 0xEF then
      match r with
      | [] => [replacement]
      | b :: r₁ =>
        if secondOfThree a b then
          match r₁ with
          | [] => [replacement]
          | c :: r₂ =>
            if isTail c then
              Char.ofNat ((lowBits 4 a * 64 + lowBits 6 b) * 64 + lowBits 6 c) :: lossyChars r₂
            else replacement :: lossyChars (c :: r₂)
        else replacement :: lossyChars (b :: r₁)
    else if 0xF0 ≤ a ∧ a ≤ 0xF4 then
      match r with
      | [] => [replacement]
      | b :: r₁ =>
        if secondOfFour a b then
          match r₁ with
          | [] => [replacement]
          | c :: r₂ =>
            if isTail c then
              match r₂ with
              | [] => [replacement]
              | d :: r₃ =>
                if isTail d then
                  Char.ofNat (((lowBits 3 a * 64 + lowBits 6 b) * 64 + lowBits 6 c) * 64
                    + lowBits 6 d) :: lossyChars r₃
                else replacement :: lossyChars (d :: r₃)
            else replacement :: lossyChars (c :: r₂)
        else replacement :: lossyChars (b :: r₁)
    else replacement :: lossyChars r

/-- The text of any octets. -/
def lossy (octets : ByteArray) : String := String.ofList (lossyChars octets.data.toList)

/-- The octets that the UTF-8 form of some characters takes. -/
def utf8Size (cs : List Char) : Nat := cs.foldr (fun c n ↦ c.utf8Size + n) 0

example : lossyChars [0x7B, 0x22, 0xC3, 0x28] = ['{', '"', replacement, '('] := by decide

end TraceReconciler.Text
