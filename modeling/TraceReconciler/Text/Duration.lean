import TraceReconciler.Text.Decimal

/-!
# Durations as text

A duration of whole milliseconds is shown in the largest unit of which it is at least one: seconds,
with as many decimals as it needs, or milliseconds. No time at all is shown in nanoseconds.
-/

namespace TraceReconciler.Text

/-- Three digits after the point, without zeros at the end, and the point if one remains. -/
def thousandths (n : Nat) : List Char :=
  let ds := digits n
  let padded := List.replicate (3 - ds.length) '0' ++ ds
  match (padded.reverse.dropWhile (· == '0')).reverse with
  | [] => []
  | r => '.' :: r

/-- **A number of milliseconds as a duration.** -/
def duration (ms : Nat) : String :=
  if ms = 0 then "0ns"
  else if ms < 1000 then String.ofList (digits ms ++ ['m', 's'])
  else String.ofList (digits (ms / 1000) ++ thousandths (ms % 1000) ++ ['s'])

example : duration 1001 = "1.001s" ∧ duration 61000 = "61s" ∧ duration 1500 = "1.5s" := by decide

end TraceReconciler.Text
