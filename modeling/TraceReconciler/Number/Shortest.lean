import TraceReconciler.Number.Binary64
import TraceReconciler.Text.Decimal

/-!
# The shortest decimal of a floating point number

A number of the format stands for the interval of reals that round to it. Its decimal text uses the
fewest digits with which some decimal lies in that interval and, among decimals of that length, the
one nearest to the number; of two that are equally near, the one whose last digit is even.

**The search** tries one digit, then two, and so on. On the grid of decimals of a given length only
the two neighbours of the number have to be looked at: if any point of the grid lies in the
interval, one of them does.

**The layout** is a matter of the format: positional for scientific exponents from -5 to 15, with at
least one digit after the point, and otherwise with an exponent, which always has a sign.
-/

namespace TraceReconciler.Binary64

/-- A decimal `digits · 10 ^ exponent`. -/
structure Decimal where
  /-- The digits, read as one natural number. -/
  digits : Nat
  /-- The power of ten that the last digit counts. -/
  exponent : Int
deriving DecidableEq

/-- The powers of ten by which a number is scaled so that all its digits are before the point. -/
def scale : Nat := 343

/-- The interval of reals that round to a number, in quarters of a unit, and whether its ends do. -/
structure Interval where
  lower : Nat
  upper : Nat
  closed : Bool

/-- **The interval of a number.** Its lower half is shorter where the spacing changes. -/
def interval (a : Binary64) : Interval :=
  let step := Nat.pow 2 (spacing a.units)
  -- Below a power of two the numbers lie twice as close together.
  let below :=
    if a.units = Nat.pow 2 (52 + spacing a.units) && 0 < spacing a.units then step else 2 * step
  { lower := 4 * a.units - below
    upper := 4 * a.units + 2 * step
    closed := a.units / step % 2 == 0 }

/-- Whether `c · 10 ^ (place - scale)` lies in an interval. -/
def Interval.holds (i : Interval) (place c : Nat) : Bool :=
  let x := 4 * c * Nat.pow 10 place * one
  let lower := i.lower * Nat.pow 10 scale
  let upper := i.upper * Nat.pow 10 scale
  if i.closed then lower ≤ x && x ≤ upper else lower < x && x < upper

/-- How far `c · 10 ^ (place - scale)` is from the number, in a unit common to all `c`. -/
def distance (a : Binary64) (place c : Nat) : Nat :=
  let x := c * Nat.pow 10 place * one
  let y := a.units * Nat.pow 10 scale
  (x - y) + (y - x)

/-- The better of the two neighbours of the number on the grid of step `10 ^ (place - scale)`, if
one of them rounds to the number. -/
def nearestOn? (a : Binary64) (place : Nat) : Option Nat :=
  let i := a.interval
  let c := a.units * Nat.pow 10 scale / (Nat.pow 10 place * one)
  match i.holds place c, i.holds place (c + 1) with
  | true, true =>
    let d := distance a place c
    let d' := distance a place (c + 1)
    -- Of two that are equally near, the even one.
    if d < d' ∨ (d = d' ∧ c % 2 = 0) then some c else some (c + 1)
  | true, false => some c
  | false, true => some (c + 1)
  | false, false => none

/-- The decimal of the coarsest grid that has one, from a place on downwards. -/
def searchFrom (a : Binary64) : Nat → Decimal
  | 0 => ⟨a.units * Nat.pow 10 scale / one, -scale⟩
  | place + 1 =>
    match nearestOn? a (place + 1) with
    | some c => ⟨c, (place + 1 : Int) - scale⟩
    | none => searchFrom a place

/-- The same decimal without zeros at its end. -/
def Decimal.stripZeros (d : Decimal) : Decimal :=
  if d.digits = 0 then ⟨0, 0⟩
  else if d.digits % 10 = 0 then stripZeros ⟨d.digits / 10, d.exponent + 1⟩
  else d
termination_by d.digits
decreasing_by omega

/-- **The shortest decimal that reads back as the number.** -/
def shortest (a : Binary64) : Decimal :=
  (searchFrom a ((Text.digits (a.units * Nat.pow 10 scale / one)).length)).stripZeros

/-! ### Layout -/

/-- A count of zeros. -/
def zeros (n : Nat) : List Char := List.replicate n '0'

/-- The exponent part. -/
def exponentText (e : Int) : List Char :=
  'e' :: (if e < 0 then '-' else '+') :: Text.digits e.natAbs

/-- A decimal, positional or scientific. -/
def Decimal.text (d : Decimal) : List Char :=
  let ds := Text.digits d.digits
  let e : Int := ds.length - 1 + d.exponent
  if -5 ≤ e ∧ e ≤ 15 then
    if 0 ≤ d.exponent then ds ++ zeros d.exponent.toNat ++ ['.', '0']
    else if 0 ≤ e then ds.take (e.toNat + 1) ++ '.' :: ds.drop (e.toNat + 1)
    else '0' :: '.' :: (zeros (-e - 1).toNat ++ ds)
  else
    match ds with
    | [] => []
    | [c] => c :: exponentText e
    | c :: r => c :: '.' :: (r ++ exponentText e)

/-- **The decimal text of a number.** -/
def text (a : Binary64) : List Char := a.shortest.text

end TraceReconciler.Binary64
