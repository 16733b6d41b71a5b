/-!
# Decimal numerals of natural numbers

Writing and reading without a sign, and the reader of *settings and arguments*: one leading plus is
allowed, any number of leading zeros, and the value has to stay below a bound.
-/

namespace TraceReconciler.Text

/-- An ASCII digit. -/
def isDigit (c : Char) : Bool := '0' ≤ c && c ≤ '9'

/-- The decimal digits of a number, without leading zeros. -/
def digits (n : Nat) : List Char := Nat.toDigits 10 n

/-- The number that a run of digits stands for; the empty run stands for zero. -/
def digitsValue (cs : List Char) : Nat := Nat.ofDigitChars 10 cs 0

/-- **Writing a number and reading it back loses nothing.** -/
theorem digitsValue_digits (n : Nat) : digitsValue (digits n) = n := Nat.ofDigitChars_ten_toDigits

theorem isDigit_eq (c : Char) : isDigit c = c.isDigit := by
  simp only [isDigit, Char.isDigit, Char.le_def, UInt32.le_iff_toNat_le]

theorem isDigit_of_mem_digits {n : Nat} {c : Char} (h : c ∈ digits n) : isDigit c = true := by
  rw [isDigit_eq]
  exact Nat.isDigit_of_mem_toDigits (by decide) (by decide) h

theorem digits_ne_nil (n : Nat) : digits n ≠ [] := Nat.toDigits_ne_nil

/-- The number written by one or more digits and nothing else. -/
def readDigits? (cs : List Char) : Option Nat :=
  if cs.isEmpty || !cs.all isDigit then none else some (digitsValue cs)

/-- **The number below `bound` written by digits after at most one plus.** -/
def readBelow? (bound : Nat) (cs : List Char) : Option Nat :=
  let ds := match cs with
    | '+' :: r => r
    | _ => cs
  (readDigits? ds).filter (· < bound)

/-- The signed form: at most one plus or minus before the digits. -/
def readSigned? (cs : List Char) : Option Int :=
  match cs with
  | '-' :: r => (readDigits? r).map fun n ↦ -(n : Int)
  | '+' :: r => (readDigits? r).map Int.ofNat
  | _ => (readDigits? cs).map Int.ofNat

/-- The smallest number that a word of 32 bits cannot hold. -/
def bound32 : Nat := 4294967296

/-- The smallest number that a word of 64 bits cannot hold. -/
def bound64 : Nat := 18446744073709551616

end TraceReconciler.Text
