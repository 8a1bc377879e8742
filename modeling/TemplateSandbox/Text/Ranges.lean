/-
# Sets of characters written as ranges

A property of characters is kept as a list of closed ranges of code points.
`Ranges.contains` is membership: a character is in the set if its code point is
in one of the ranges (`Ranges.contains_iff`).
-/

namespace TemplateSandbox

/-- A set of characters: closed ranges of code points, both ends included. -/
abbrev Ranges := List (Nat × Nat)

namespace Ranges

/-- Whether the code point of `c` lies in one of the ranges. -/
def contains (table : Ranges) (c : Char) : Bool :=
  table.any fun range => range.1 ≤ c.toNat && c.toNat ≤ range.2

theorem contains_iff {table : Ranges} {c : Char} :
    contains table c = true ↔ ∃ range ∈ table, range.1 ≤ c.toNat ∧ c.toNat ≤ range.2 := by
  simp [contains]

/-- How many code points a table names, when no two ranges overlap. -/
def count (table : Ranges) : Nat :=
  table.foldl (fun total range => total + (range.2 + 1 - range.1)) 0

end Ranges
end TemplateSandbox
