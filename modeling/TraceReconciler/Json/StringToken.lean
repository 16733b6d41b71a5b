import TraceReconciler.Json.Fault

/-!
# Strings as they are written

A string is split off the text as a list of **pieces**, each a character that stands for itself, a
character behind a backslash, or the number of a UTF-16 unit. Units are joined into characters only
when the string is read (`StringToken.value`): a string that is skipped may hold half of a pair.
-/

namespace TraceReconciler.Json

/-- One piece of a written string. -/
inductive Piece where
  /-- A character that stands for itself. -/
  | plain (c : Char)
  /-- A character written by a backslash and a letter. -/
  | escaped (c : Char)
  /-- A UTF-16 unit, written by four hexadecimal digits. -/
  | unit (u : Nat)
deriving DecidableEq

/-- How a written string ends. -/
inductive StringEnd where
  /-- With a quote. -/
  | closed
  /-- With the text. -/
  | cut
  /-- Before a control character. -/
  | control
  /-- Before a backslash and a character that it does not escape. -/
  | wrongLetter
  /-- Before four characters that are not all hexadecimal digits. -/
  | wrongDigits
deriving DecidableEq

/-- A string as it is written. -/
structure StringToken where
  pieces : List Piece
  ending : StringEnd
deriving DecidableEq

namespace StringToken

/-- The string with one more piece in front. -/
def cons (p : Piece) (t : StringToken) : StringToken := { t with pieces := p :: t.pieces }

/-- The character that a backslash and a letter stand for. -/
def escape? (c : Char) : Option Char :=
  if c = '"' then some '"'
  else if c = '\\' then some '\\'
  else if c = '/' then some '/'
  else if c = 'b' then some '\x08'
  else if c = 'f' then some '\x0c'
  else if c = 'n' then some '\n'
  else if c = 'r' then some '\r'
  else if c = 't' then some '\t'
  else none

/-- The value of a hexadecimal digit. -/
def hexDigit? (c : Char) : Option Nat :=
  if '0' ≤ c ∧ c ≤ '9' then some (c.toNat - '0'.toNat)
  else if 'a' ≤ c ∧ c ≤ 'f' then some (c.toNat - 'a'.toNat + 10)
  else if 'A' ≤ c ∧ c ≤ 'F' then some (c.toNat - 'A'.toNat + 10)
  else none

/-- The unit that four hexadecimal digits stand for. -/
def unit? (a b c d : Char) : Option Nat := do
  let a ← hexDigit? a
  let b ← hexDigit? b
  let c ← hexDigit? c
  let d ← hexDigit? d
  return ((a * 16 + b) * 16 + c) * 16 + d

/-- The end of a string whose hexadecimal digits are not there: the text counts as ended when fewer
than four octets follow. -/
def digitsEnd (cs : List Char) : StringEnd :=
  if cs.foldl (fun n c ↦ n + c.utf8Size) 0 < 4 then .cut else .wrongDigits

/-- **The string at the start of a text**, after its opening quote, and what follows it. -/
def scan : List Char → StringToken × List Char
  | [] => (⟨[], .cut⟩, [])
  | c :: r =>
    if c = '"' then (⟨[], .closed⟩, r)
    else if c = '\\' then
      match r with
      | [] => (⟨[], .cut⟩, [])
      | e :: r₁ =>
        if e = 'u' then
          match r₁ with
          | h₁ :: h₂ :: h₃ :: h₄ :: r₂ =>
            match unit? h₁ h₂ h₃ h₄ with
            | some u => ((scan r₂).1.cons (.unit u), (scan r₂).2)
            | none => (⟨[], .wrongDigits⟩, [])
          | _ => (⟨[], digitsEnd r₁⟩, [])
        else
          match escape? e with
          | some x => ((scan r₁).1.cons (.escaped x), (scan r₁).2)
          | none => (⟨[], .wrongLetter⟩, [])
    else if c.toNat < 0x20 then (⟨[], .control⟩, [])
    else ((scan r).1.cons (.plain c), (scan r).2)

/-! ### Value -/

/-- The fault of a string that does not end with a quote. -/
def endFault : StringEnd → Option Fault
  | .closed => none
  | .cut => some .endInString
  | .control => some .controlCharacter
  | .wrongLetter => some .wrongEscape
  | .wrongDigits => some .wrongEscape

/-- The first half of a surrogate pair. -/
def isHigh (u : Nat) : Bool := 0xD800 ≤ u && u ≤ 0xDBFF

/-- The second half of a surrogate pair. -/
def isLow (u : Nat) : Bool := 0xDC00 ≤ u && u ≤ 0xDFFF

/-- The character of a surrogate pair. -/
def pairChar (high low : Nat) : Char :=
  Char.ofNat (0x10000 + (high - 0xD800) * 0x400 + (low - 0xDC00))

/-- The fault of a first half with no unit after it. -/
def unpaired : StringEnd → Fault
  | .cut => .endInString
  | .wrongDigits => .wrongEscape
  | _ => .unpairedEscape

/-- The characters of pieces, the first fault winning. -/
def join (ending : StringEnd) : List Piece → Except Fault (List Char)
  | [] => match endFault ending with
    | some f => .error f
    | none => .ok []
  | .plain c :: r => (c :: ·) <$> join ending r
  | .escaped c :: r => (c :: ·) <$> join ending r
  | .unit u :: r =>
    -- A second half cannot come first.
    if isLow u then .error .loneSurrogate
    else if isHigh u then
      match r with
      | .unit v :: r₁ =>
        if isLow v then (pairChar u v :: ·) <$> join ending r₁ else .error .loneSurrogate
      | [] => .error (unpaired ending)
      | _ => .error .unpairedEscape
    else (Char.ofNat u :: ·) <$> join ending r

/-- **The text that a string stands for.** -/
def value (t : StringToken) : Except Fault String := String.ofList <$> join t.ending t.pieces

/-- What is wrong with a string that nobody reads. -/
def skip (t : StringToken) : Except Fault Unit :=
  match endFault t.ending with
  | some f => .error f
  | none => .ok ()

/-! ### A number as a key -/

/-- The characters that stand for themselves at the start of a string, and the pieces after them. -/
def plainStart : List Piece → List Char × List Piece
  | .plain c :: r => (c :: (plainStart r).1, (plainStart r).2)
  | r => ([], r)

end StringToken

end TraceReconciler.Json
