import FacetSearch.Number.Boost
import FacetSearch.Proofs.Number.Rounding
import Mathlib.Data.Prod.Lex
import Mathlib.Order.WithBot

/-!
# Order of boosts

Boosts are compared as numbers; of two zeros the negative one is the lower. So any two boosts can be
compared, and lists can be sorted by them.
-/

namespace FacetSearch

namespace Number.Binary

variable {x y : Binary}

def value (x : Binary) : ℚ := if x.negative then -x.magnitude else x.magnitude

def rank (x : Binary) : ℚ ×ₗ Bool := toLex (x.value, !x.negative)

theorem value_of_negative (sign : x.negative = true) : x.value = -x.magnitude := if_pos sign

theorem value_of_positive (sign : x.negative = false) : x.value = x.magnitude := by
  rw [value, sign]
  rfl

theorem absLe_iff : absLe x y = true ↔ x.magnitude ≤ y.magnitude := by
  have below : (0 : ℚ) < x.quotient.2 := Nat.cast_pos.mpr x.quotient_pos
  have below' : (0 : ℚ) < y.quotient.2 := Nat.cast_pos.mpr y.quotient_pos
  rw [← quotient_eq, ← quotient_eq, div_le_div_iff₀ below below', absLe, decide_eq_true_iff]
  exact_mod_cast Iff.rfl

theorem le_iff : x.le y = true ↔ x.rank ≤ y.rank := by
  have hx := x.magnitude_nonneg
  have hy := y.magnitude_nonneg
  rw [rank, rank, Prod.Lex.toLex_le_toLex]
  cases signX : x.negative with
  | false =>
    rw [value_of_positive signX]
    cases signY : y.negative with
    | false =>
      rw [value_of_positive signY]
      simp only [le, signX, signY, absLe_iff, Bool.not_false, le_refl, and_true]
      exact le_iff_lt_or_eq
    | true =>
      rw [value_of_negative signY]
      simp only [le, signX, signY, Bool.not_false, Bool.not_true, Bool.false_eq_true, false_iff, not_or]
      -- Only two zeros are equal, and then the signs decide.
      refine ⟨by linarith, fun both => absurd both.2 (by decide)⟩
  | true =>
    rw [value_of_negative signX]
    cases signY : y.negative with
    | false =>
      rw [value_of_positive signY]
      simp only [le, signX, signY, Bool.not_false, Bool.not_true, Bool.false_le, and_true, true_iff]
      exact le_iff_lt_or_eq.mp (by linarith)
    | true =>
      rw [value_of_negative signY]
      simp only [le, signX, signY, absLe_iff, Bool.not_true, le_refl, and_true]
      rw [← le_iff_lt_or_eq, neg_le_neg_iff]

end Number.Binary

namespace Boost

open Number (Binary)

variable {a b : Boost}

def number : Boost → WithBot (WithTop ℚ)
  | finite x => (x.value : WithTop ℚ)
  | infinite true => ⊥
  | infinite false => ⊤

def isPositive : Boost → Bool
  | finite x => !x.negative
  | infinite negative => !negative

def rank (b : Boost) : WithBot (WithTop ℚ) ×ₗ Bool := toLex (b.number, b.isPositive)

instance : Preorder Boost := Preorder.lift rank

theorem le_or_le (a b : Boost) : a ≤ b ∨ b ≤ a := le_total a.rank b.rank

theorem rank_finite_le {x y : Binary} : (finite x).rank ≤ (finite y).rank ↔ x.rank ≤ y.rank := by
  simp only [rank, number, isPositive, Binary.rank, Prod.Lex.toLex_le_toLex, WithBot.coe_lt_coe,
    WithBot.coe_inj, WithTop.coe_lt_coe, WithTop.coe_inj]

theorem rank_least (b : Boost) : (infinite true).rank ≤ b.rank :=
  show ⊥ ≤ b.rank from bot_le

theorem rank_greatest (b : Boost) : b.rank ≤ (infinite false).rank :=
  show b.rank ≤ ⊤ from le_top

theorem not_rank_le_least (x : Binary) : ¬(finite x).rank ≤ (infinite true).rank := by
  intro (low : (finite x).rank ≤ ⊥)
  exact WithBot.coe_ne_bot (Prod.mk.inj (toLex_inj.mp (le_bot_iff.mp low))).1

theorem not_greatest_le_rank (x : Binary) : ¬(infinite false).rank ≤ (finite x).rank := by
  intro (high : ⊤ ≤ (finite x).rank)
  have same := (Prod.mk.inj (toLex_inj.mp (top_le_iff.mp high))).1
  exact WithTop.coe_ne_top (WithBot.coe_inj.mp same)

/-- Boosts are sorted by this order. -/
theorem le_iff : a.le b = true ↔ a ≤ b := by
  show _ ↔ a.rank ≤ b.rank
  match a, b with
  | infinite true, b => exact iff_of_true rfl (rank_least b)
  | finite x, infinite false => exact iff_of_true rfl (rank_greatest (finite x))
  | infinite false, infinite false => exact iff_of_true rfl le_rfl
  | finite x, finite y => rw [le, Binary.le_iff, rank_finite_le]
  | finite x, infinite true => exact iff_of_false Bool.false_ne_true (not_rank_le_least x)
  | infinite false, finite y => exact iff_of_false Bool.false_ne_true (not_greatest_le_rank y)
  | infinite false, infinite true => exact iff_of_false Bool.false_ne_true bot_lt_top.not_ge

end Boost

end FacetSearch
