/-!
# Tables of code point ranges

A property of characters that no rule describes is given by the ranges of code
points that have it.
-/

namespace Tabula.Text

/-- Closed ranges of code points, in ascending order. -/
abbrev RangeTable := List (Nat × Nat)

namespace RangeTable

/-- Whether some range of the table holds the character. -/
def holds (table : RangeTable) (char : Char) : Bool :=
  table.any fun range => range.1 ≤ char.toNat && char.toNat ≤ range.2

theorem holds_eq_true_iff {table : RangeTable} {char : Char} :
    table.holds char = true ↔
      ∃ range ∈ table, range.1 ≤ char.toNat ∧ char.toNat ≤ range.2 := by
  simp [holds]

end RangeTable

end Tabula.Text
