import TraceReconciler.Json.Fault

/-!
# Numerals

How a number is written: an optional minus, digits without a leading zero, perhaps a point and
digits, perhaps an exponent. A numeral is split off the text first (`Numeral.scan`) and given its
value afterwards (`Numeral.value`), because a value that nobody reads needs no value and may be out
of range.

**Range.** Digits are taken into the significand while it fits 64 bits. A whole number that fits is
exact; any other numeral becomes a floating point number from the significand and the exponent that
remain, digits past the significand counting as zeros.
-/

namespace TraceReconciler.Json

/-- A numeral, cut into its parts. -/
structure Numeral where
  /-- Whether it begins with a minus. -/
  negative : Bool
  /-- The digits before the point. -/
  whole : List Char
  /-- The digits after the point, if there is one. -/
  fraction : Option (List Char)
  /-- Whether the exponent is negative, and its digits, if there is one. -/
  exponent : Option (Bool × List Char)
  /-- What keeps it from being a numeral. -/
  flaw : Option Fault
deriving DecidableEq

namespace Numeral

/-- The fault of a text that should go on with a digit. -/
def digitMissing : List Char → Fault
  | [] => .endInValue
  | _ => .wrongNumeral

/-- The exponent, after its letter. -/
def scanExponent (cs : List Char) : Option (Bool × List Char) × Option Fault × List Char :=
  let (minus, r) := match cs with
    | '-' :: r => (true, r)
    | '+' :: r => (false, r)
    | r => (false, r)
  let ds := r.takeWhile Text.isDigit
  if ds.isEmpty then (none, some (digitMissing r), r)
  else (some (minus, ds), none, r.dropWhile Text.isDigit)

/-- Whether a character opens an exponent. -/
def isExponentMark (c : Char) : Bool := c == 'e' || c == 'E'

/-- The exponent, if one follows. -/
def scanExponent? (cs : List Char) : Option (Bool × List Char) × Option Fault × List Char :=
  match cs with
  | c :: r => if isExponentMark c then scanExponent r else (none, none, cs)
  | [] => (none, none, [])

/-- The digits after the point, if there is one, and the exponent. -/
def scanAfterWhole (negative : Bool) (whole cs : List Char) : Numeral × List Char :=
  match cs with
  | '.' :: r =>
    let ds := r.takeWhile Text.isDigit
    if ds.isEmpty then (⟨negative, whole, none, none, some (digitMissing r)⟩, r)
    else
      let (e, flaw, rest) := scanExponent? (r.dropWhile Text.isDigit)
      (⟨negative, whole, some ds, e, flaw⟩, rest)
  | _ =>
    let (e, flaw, rest) := scanExponent? cs
    (⟨negative, whole, none, e, flaw⟩, rest)

/-- The digits before the point, and what follows them. -/
def scanDigits (negative : Bool) (cs : List Char) : Numeral × List Char :=
  match cs with
  | '0' :: r =>
    match r with
    | c :: _ =>
      if Text.isDigit c then (⟨negative, ['0'], none, none, some .wrongNumeral⟩, r)
      else scanAfterWhole negative ['0'] r
    | [] => scanAfterWhole negative ['0'] r
  | _ =>
    let ds := cs.takeWhile Text.isDigit
    if ds.isEmpty then (⟨negative, [], none, none, some (digitMissing cs)⟩, cs)
    else scanAfterWhole negative ds (cs.dropWhile Text.isDigit)

/-- **The numeral at the start of a text**, and what follows it. -/
def scan (cs : List Char) : Numeral × List Char :=
  match cs with
  | '-' :: r => scanDigits true r
  | _ => scanDigits false cs

/-! ### Value -/

/-- A significand that fits 64 bits, with the power of ten that it is short of. -/
structure Significand where
  value : Nat
  exponent : Int
  /-- Whether a digit has been left out. -/
  full : Bool

/-- The value of a digit. -/
def digit (c : Char) : Nat := c.toNat - '0'.toNat

/-- Take a digit before the point. -/
def Significand.takeWhole (s : Significand) (c : Char) : Significand :=
  if s.full || Text.bound64 ≤ s.value * 10 + digit c then ⟨s.value, s.exponent + 1, true⟩
  else ⟨s.value * 10 + digit c, s.exponent, false⟩

/-- Take a digit after the point. -/
def Significand.takeFraction (s : Significand) (c : Char) : Significand :=
  if s.full || Text.bound64 ≤ s.value * 10 + digit c then { s with full := true }
  else ⟨s.value * 10 + digit c, s.exponent - 1, false⟩

/-- The significand of all digits. -/
def significand (whole fraction : List Char) : Significand :=
  let s := whole.foldl Significand.takeWhole ⟨0, 0, false⟩
  fraction.foldl Significand.takeFraction { s with full := false }

/-- The bound of exponents that are computed with. -/
def exponentBound : Nat := 2147483648

/-- An exponent, kept within 32 bits. -/
def clampExponent (e : Int) : Int :=
  if (exponentBound : Int) ≤ e then exponentBound - 1
  else if e < -(exponentBound : Int) then -(exponentBound : Int)
  else e

/-- The floating point number of a numeral. -/
def magnitude? (n : Numeral) : Option Binary64 :=
  let s := significand n.whole (n.fraction.getD [])
  match n.exponent with
  | none => Binary64.ofDecimal? s.value s.exponent
  | some (minus, ds) =>
    let e := Text.digitsValue ds
    if exponentBound ≤ e then
      -- So large an exponent leaves zero, or nothing that the format holds.
      if s.value ≠ 0 ∧ minus = false then none else some ⟨0⟩
    else
      Binary64.ofDecimal? s.value
        (clampExponent (if minus then s.exponent - (e : Int) else s.exponent + (e : Int)))

/-- The whole number of a numeral without point and exponent, if it is in range. -/
def whole? (n : Numeral) : Option Number :=
  if n.fraction.isSome || n.exponent.isSome then none
  else
    let v := Text.digitsValue n.whole
    if n.negative then
      -- A negative zero is no whole number.
      if 0 < v ∧ v ≤ 9223372036854775808 then some (.negative v) else none
    else if v < Text.bound64 then some (.nat v)
    else none

/-- **The number that a numeral stands for.** -/
def value (n : Numeral) : Except Fault Number :=
  match n.flaw with
  | some f => .error f
  | none =>
    match n.whole? with
    | some v => .ok v
    | none =>
      match n.magnitude? with
      | some a => .ok (.float n.negative a)
      | none => .error .numberTooLarge

/-- What is wrong with a numeral that nobody reads: its range does not matter, and a text that ends
inside it is a numeral against the rules. -/
def skip (n : Numeral) : Except Fault Unit :=
  match n.flaw with
  | some _ => .error .wrongNumeral
  | none => .ok ()

/-! ### Digits and what follows them -/

section

variable {ds rest : List Char}

theorem takeWhile_isDigit_append (hds : ∀ c ∈ ds, Text.isDigit c = true)
    (h : ∀ c ∈ rest.head?, Text.isDigit c = false) :
    (ds ++ rest).takeWhile Text.isDigit = ds := by
  rw [List.takeWhile_append_of_pos hds]
  cases rest with
  | nil => simp
  | cons c r => simp [h c rfl]

theorem dropWhile_isDigit_append (hds : ∀ c ∈ ds, Text.isDigit c = true)
    (h : ∀ c ∈ rest.head?, Text.isDigit c = false) :
    (ds ++ rest).dropWhile Text.isDigit = rest := by
  rw [List.dropWhile_append_of_pos hds]
  cases rest with
  | nil => rfl
  | cons c r => simp [h c rfl]

end

end Numeral

end TraceReconciler.Json
