/-!
# Non-negative binary floating point numbers

A finite number of the 64-bit format is a whole number of **units** of 2⁻¹⁰⁷⁴, the distance of its
smallest two numbers. Below 2⁵³ units every count is a number of the format; above, the numbers lie
2ˢ units apart where the count has 53 + s binary digits.

Every operation is one exact quotient of natural numbers followed by one rounding to the nearest
number, a tie going to the even multiple of the spacing.
-/

namespace TraceReconciler

/-- A non-negative finite binary64 number, counted in units of 2⁻¹⁰⁷⁴. -/
structure Binary64 where
  /-- How many units the number is. -/
  units : Nat
deriving DecidableEq

namespace Binary64

/-- The number of units in one. -/
def one : Nat := Nat.pow 2 1074

/-- The count at which the format ends. -/
def limit : Nat := Nat.pow 2 2098

/-- The binary logarithm of the distance between the numbers of the format around a count. -/
def spacing (units : Nat) : Nat := units.log2 - 52

/-- The natural number nearest to `num / den`, a tie going to the even one. -/
def roundQuotient (num den : Nat) : Nat :=
  let q := num / den
  let r := num % den
  if 2 * r < den then q
  else if den < 2 * r then q + 1
  else if q % 2 = 0 then q
  else q + 1

/-- The number of the format nearest to `num / den` units; none where the format has ended. -/
def round? (num den : Nat) : Option Binary64 :=
  let step := Nat.pow 2 (spacing (num / den))
  -- Rounding up to the next power of two lands on the coarser grid as well.
  let units := roundQuotient num (den * step) * step
  if units < limit then some ⟨units⟩ else none

/-- The number nearest to a natural number. -/
def ofNat? (n : Nat) : Option Binary64 := round? (n * one) 1

/-- The product, rounded. -/
def mul? (a b : Binary64) : Option Binary64 := round? (a.units * b.units) one

/-- The quotient, rounded. -/
def div? (a b : Binary64) : Option Binary64 := round? (a.units * one) b.units

/-- The number nearest to a power of ten. -/
def pow10? (k : Nat) : Option Binary64 := ofNat? (Nat.pow 10 k)

/-! ### Decimal significand and exponent

The number of a decimal numeral is found in two roundings: the significand is rounded, and then
multiplied or divided by the nearest number to the power of ten. Powers beyond 10³⁰⁸ have no
number of their own; such a division is made in steps of 10³⁰⁸. -/

/-- The largest exponent of a power of ten in the format. -/
def maxPow10 : Nat := 308

/-- `a / 10 ^ k`, in steps of at most 308 powers. -/
def divPow10? (a : Binary64) (k : Nat) : Option Binary64 :=
  if a.units = 0 then some a
  else if k ≤ maxPow10 then do div? a (← pow10? k)
  else do divPow10? (← div? a (← pow10? maxPow10)) (k - maxPow10)
termination_by k
decreasing_by simp only [maxPow10] at *; omega

/-- **The number of `significand · 10 ^ exponent`**; none where the format has ended. -/
def ofDecimal? (significand : Nat) (exponent : Int) : Option Binary64 := do
  let a ← ofNat? significand
  if exponent < 0 then divPow10? a exponent.natAbs
  else if exponent.toNat ≤ maxPow10 then mul? a (← pow10? exponent.toNat)
  else if a.units = 0 then some a
  else none

end Binary64

end TraceReconciler
