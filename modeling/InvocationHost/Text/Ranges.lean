/-! # Character classes given by ranges of code points

A class is a table of closed ranges; membership is decided by scanning it.
-/
namespace InvocationHost.Text

abbrev CodeRanges := List (Nat × Nat)

def CodeRanges.has (table : CodeRanges) (c : Char) : Bool :=
  table.any fun r => decide (r.1 ≤ c.toNat) && decide (c.toNat ≤ r.2)

theorem CodeRanges.has_iff {table : CodeRanges} {c : Char} :
    table.has c = true ↔ ∃ r ∈ table, r.1 ≤ c.toNat ∧ c.toNat ≤ r.2 := by
  simp [CodeRanges.has]

end InvocationHost.Text
