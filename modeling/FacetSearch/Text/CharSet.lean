/-!
# Sets of characters

A set of characters is a list of inclusive ranges of code points.
-/

namespace FacetSearch.Text

structure CharSet where
  ranges : List (Nat × Nat)
  deriving DecidableEq, Repr

def CharSet.contains (set : CharSet) (c : Char) : Bool :=
  set.ranges.any fun range => range.1 ≤ c.toNat && c.toNat ≤ range.2

theorem CharSet.contains_iff {set : CharSet} {c : Char} :
    set.contains c = true ↔ ∃ range ∈ set.ranges, range.1 ≤ c.toNat ∧ c.toNat ≤ range.2 := by
  simp [CharSet.contains]

end FacetSearch.Text
