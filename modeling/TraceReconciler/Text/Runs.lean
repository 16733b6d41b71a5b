/-!
# Runs of code points

A class of characters that no rule describes is a table: the code points of the class as runs, given
by the first and the last code point of each.
-/

namespace TraceReconciler.Text

/-- Whether a code point lies in one of some runs. -/
def inRuns (runs : List (Nat × Nat)) (n : Nat) : Bool := runs.any fun r ↦ r.1 ≤ n && n ≤ r.2

theorem inRuns_iff {runs : List (Nat × Nat)} {n : Nat} :
    inRuns runs n = true ↔ ∃ r ∈ runs, r.1 ≤ n ∧ n ≤ r.2 := by
  simp [inRuns]

end TraceReconciler.Text
