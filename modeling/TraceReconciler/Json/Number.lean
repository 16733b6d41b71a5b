import TraceReconciler.Number.Shortest

/-!
# JSON numbers

A number of a JSON text is a natural number below 2⁶⁴, a negative integer not below -2⁶³, or a
floating point number; only the first kind is ever accepted where this library expects a number,
the others are described in a message.
-/

namespace TraceReconciler.Json

/-- The value of a numeral. -/
inductive Number where
  /-- A natural number below 2⁶⁴. -/
  | nat (n : Nat)
  /-- The negative of a positive number not above 2⁶³. -/
  | negative (n : Nat)
  /-- A floating point number and its sign. -/
  | float (negative : Bool) (magnitude : Binary64)
deriving DecidableEq

/-- How a message shows a number. -/
def Number.text : Number → List Char
  | .nat n => Text.digits n
  | .negative n => '-' :: Text.digits n
  | .float true a => '-' :: a.text
  | .float false a => a.text

end TraceReconciler.Json
