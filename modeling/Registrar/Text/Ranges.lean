/-! # Tables of code points

A table is a list of closed ranges; `inRanges` is membership in one of them.
-/

namespace Registrar.Text
set_option autoImplicit false

/-- Some range of the table holds `n`. -/
def inRanges (table : List (Nat × Nat)) (n : Nat) : Bool :=
  table.any fun r => r.1 ≤ n && n ≤ r.2

theorem inRanges_iff {table : List (Nat × Nat)} {n : Nat} :
    inRanges table n = true ↔ ∃ r ∈ table, r.1 ≤ n ∧ n ≤ r.2 := by
  simp [inRanges]

end Registrar.Text
