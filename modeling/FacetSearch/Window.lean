import FacetSearch.Number.Decimal

/-!
# Windows

The window of a page within all results: where it starts, how many results it shows, and how many
there are. Offsets and totals have 64 bits.
-/

namespace FacetSearch

structure Window where
  offset : Nat
  size : Nat
  total : Nat
  deriving DecidableEq, Repr

namespace Window

/-- Where the next page starts, if there is one. -/
def next? (w : Window) : Option Nat :=
  let next := Number.addWord w.offset w.size
  if 0 < w.size ∧ next < w.total then some next else none

/-- Where the previous page starts, if there is a whole one. -/
def previous? (w : Window) : Option Nat :=
  if 0 < w.size ∧ w.size ≤ w.offset then some (w.offset - w.size) else none

/-- The sum stops at the largest offset only where there is no next page. -/
theorem next?_eq_some_iff {w : Window} (h : w.total ≤ Number.maxWord) {n : Nat} :
    w.next? = some n ↔ 0 < w.size ∧ n = w.offset + w.size ∧ n < w.total := by
  have hsum : Number.addWord w.offset w.size = min (w.offset + w.size) Number.maxWord := rfl
  rw [next?, Option.ite_none_right_eq_some, Option.some.injEq, hsum]
  omega

theorem previous?_eq_some_iff {w : Window} {n : Nat} :
    w.previous? = some n ↔ 0 < w.size ∧ n + w.size = w.offset := by
  rw [previous?, Option.ite_none_right_eq_some, Option.some.injEq]
  omega

end Window
end FacetSearch
