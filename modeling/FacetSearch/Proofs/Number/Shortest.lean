import FacetSearch.Number.Shortest
import FacetSearch.Proofs.Number.Digits
import FacetSearch.Proofs.Number.Rounding
import Mathlib.Data.Nat.Cast.Order.Field

/-!
# The size of the shortest decimal

The shortest decimal of a number lies at most half a place above it.
-/

namespace FacetSearch.Number

open Binary (magnitude two_zpow)
open Decimal (render)

variable {format : Format} {x : Binary} {num den d count : Nat} {scale point : Int}

def Digits.magnitude (d : Digits) : ℚ := d.value * 10 ^ (d.point - (render d.value).length)

theorem ten_zpow (e : Int) :
    (10 : ℚ) ^ e = (Nat.pow 10 e.toNat : Nat) / (Nat.pow 10 (-e).toNat : Nat) :=
  (Binary.pow_toNat_div 10 (by decide) e).symm

theorem ten_zpow_pos (e : Int) : (0 : ℚ) < 10 ^ e := by positivity

namespace Shortest

/-! ### The point -/

theorem pow_pointOf_le (some_ : num ≠ 0) (proper : den ≠ 0) :
    (10 : ℚ) ^ (pointOf num den - 1) ≤ num / den := by
  have positive : (0 : ℚ) < den := Nat.cast_pos.mpr (Nat.pos_of_ne_zero proper)
  have front : (10 : ℚ) ^ ((digitCount num : Int) - 1) ≤ num := by
    have filled : (render num).length ≠ 0 := mt List.length_eq_zero_iff.mp (Decimal.renderOnto_ne_nil _ _)
    have least : ((10 ^ ((render num).length - 1) : Nat) : ℚ) ≤ num :=
      Nat.cast_le.mpr (Decimal.pow_length_render_le some_)
    rw [Nat.cast_pow, ← zpow_natCast] at least
    rwa [digitCount, show ((render num).length : Int) - 1 = ((render num).length - 1 : Nat) by omega]
  have back : (den : ℚ) ≤ 10 ^ (digitCount den : Int) := by
    have most : (den : ℚ) ≤ ((10 ^ (render den).length : Nat) : ℚ) :=
      Nat.cast_le.mpr (Decimal.lt_pow_length_render den).le
    rwa [Nat.cast_pow, ← zpow_natCast] at most
  rw [le_div_iff₀ positive]
  unfold pointOf
  simp only
  split
  · rename_i reached
    have cast : (den : ℚ) * (Nat.pow 10 ((digitCount num : Int) - digitCount den).toNat : Nat) ≤
        num * (Nat.pow 10 (-((digitCount num : Int) - digitCount den)).toNat : Nat) := by
      exact_mod_cast reached
    rw [Int.add_sub_cancel, ten_zpow, div_mul_eq_mul_div,
      div_le_iff₀ (Binary.cast_pow_pos (by decide) _), mul_comm]
    exact cast
  · calc (10 : ℚ) ^ ((digitCount num : Int) - digitCount den - 1) * den
        ≤ 10 ^ ((digitCount num : Int) - digitCount den - 1) * 10 ^ (digitCount den : Int) :=
          mul_le_mul_of_nonneg_left back (ten_zpow_pos _).le
      _ = 10 ^ ((digitCount num : Int) - 1) := by
        rw [← zpow_add₀ (by norm_num)]
        congr 1
        omega
      _ ≤ num := front

/-! ### Decimals within reach -/

/-- A decimal within reach lies half a place from the number, both in quarters of a place. -/
theorem bounds_of_distance? {gap : Nat} (found : distance? (reach format x) x d scale = some gap) :
    d * Nat.pow 10 scale.toNat * Nat.pow 2 (2 - x.exponent).toNat ≤
        (4 * x.significand + 2) * (Nat.pow 2 (x.exponent - 2).toNat * Nat.pow 10 (-scale).toNat) ∧
      4 * x.significand * (Nat.pow 2 (x.exponent - 2).toNat * Nat.pow 10 (-scale).toNat) ≤
        d * Nat.pow 10 scale.toNat * Nat.pow 2 (2 - x.exponent).toNat +
          2 * (Nat.pow 2 (x.exponent - 2).toNat * Nat.pow 10 (-scale).toNat) := by
  have below : (reach format x).below ≤ 2 := by
    unfold reach
    simp only
    split <;> omega
  have above : (reach format x).above = 2 := rfl
  unfold distance? at found
  simp only at found
  generalize Nat.pow 2 (x.exponent - 2).toNat * Nat.pow 10 (-scale).toNat = unit at found ⊢
  generalize d * Nat.pow 10 scale.toNat * Nat.pow 2 (2 - x.exponent).toNat = there at found ⊢
  have limit := Nat.mul_le_mul_right unit below
  rw [above] at found
  rw [Nat.add_mul]
  generalize 4 * x.significand * unit = here at found ⊢
  generalize (reach format x).below * unit = back at found limit
  split at found
  · obtain ⟨within, -⟩ := Option.ite_none_right_eq_some.mp found
    omega
  · obtain ⟨within, -⟩ := Option.ite_none_right_eq_some.mp found
    omega

theorem le_of_distance? {gap : Nat} (found : distance? (reach format x) x d scale = some gap) :
    (d : ℚ) * 10 ^ scale ≤ (x.significand + 1 / 2) * 2 ^ x.exponent := by
  have bound := (bounds_of_distance? found).1
  have cast : (d : ℚ) * (Nat.pow 10 scale.toNat : Nat) * (Nat.pow 2 (2 - x.exponent).toNat : Nat) ≤
      (4 * x.significand + 2) *
        ((Nat.pow 2 (x.exponent - 2).toNat : Nat) * (Nat.pow 10 (-scale).toNat : Nat)) := by
    exact_mod_cast bound
  have quarter : (2 : ℚ) ^ x.exponent = 4 * 2 ^ (x.exponent - 2) := by
    rw [show (4 : ℚ) = 2 ^ (2 : Int) by norm_num, ← zpow_add₀ two_ne_zero]
    congr 1
    omega
  have tens := Binary.cast_pow_pos (b := 10) (by decide) (-scale).toNat
  have twos := Binary.cast_pow_pos (b := 2) (by decide) (2 - x.exponent).toNat
  rw [quarter, ten_zpow, two_zpow, show -(x.exponent - 2) = 2 - x.exponent by omega, ← mul_div_assoc,
    ← mul_div_assoc, ← mul_div_assoc, div_le_div_iff₀ tens twos]
  linarith

theorem ne_zero_of_distance? {gap : Nat} (some_ : x.significand ≠ 0)
    (found : distance? (reach format x) x d scale = some gap) : d ≠ 0 := by
  rintro rfl
  have bound := (bounds_of_distance? found).2
  have unit : 0 < Nat.pow 2 (x.exponent - 2).toNat * Nat.pow 10 (-scale).toNat :=
    Nat.mul_pos (Nat.pow_pos (by decide)) (Nat.pow_pos (by decide))
  rw [Nat.zero_mul, Nat.zero_mul, Nat.zero_add] at bound
  have few := Nat.le_of_mul_le_mul_right bound unit
  omega

/-! ### The decimal that is found -/

/-- A decimal of a grid is within reach and lies no further down than the number. -/
theorem of_onGrid? (found : onGrid? format x point count = some d) :
    (∃ gap, distance? (reach format x) x d (point - count) = some gap) ∧
      x.quotient.1 * Nat.pow 10 (-(point - count)).toNat /
        (x.quotient.2 * Nat.pow 10 (point - count).toNat) ≤ d := by
  unfold onGrid? at found
  simp only at found
  split at found
  · rename_i a b below above
    obtain rfl := Option.some.inj found
    split
    · exact ⟨⟨a, below⟩, le_rfl⟩
    · exact ⟨⟨b, above⟩, Nat.le_succ _⟩
  · rename_i a below _
    obtain rfl := Option.some.inj found
    exact ⟨⟨a, below⟩, le_rfl⟩
  · rename_i b _ above
    obtain rfl := Option.some.inj found
    exact ⟨⟨b, above⟩, Nat.le_succ _⟩
  · cases found

theorem of_search {start fuel : Nat} (found : search format x point start fuel = some (d, count)) :
    start ≤ count ∧ onGrid? format x point count = some d := by
  induction fuel generalizing start with
  | zero => cases found
  | succ more ih =>
    unfold search at found
    split at found
    · rename_i here
      obtain ⟨rfl, rfl⟩ := Prod.mk.inj (Option.some.inj found)
      exact ⟨le_rfl, here⟩
    · obtain ⟨later, there⟩ := ih found
      exact ⟨by omega, there⟩

theorem pow_le_of_onGrid? (some_ : x.significand ≠ 0) (counted : 1 ≤ count)
    (found : onGrid? format x (pointOf x.quotient.1 x.quotient.2) count = some d) :
    10 ^ (count - 1) ≤ d := by
  obtain ⟨-, above⟩ := of_onGrid? found
  refine le_trans ?_ above
  have filled : x.quotient.1 ≠ 0 :=
    Nat.mul_ne_zero some_ (Nat.pow_pos Nat.two_pos).ne'
  have least := pow_pointOf_le filled x.quotient_pos.ne'
  generalize pointOf x.quotient.1 x.quotient.2 = point at least
  have positive := x.quotient_pos
  have up := Binary.cast_pow_pos (b := 10) (by decide) (-(point - count)).toNat
  apply (Nat.le_div_iff_mul_le (Nat.mul_pos positive (Nat.pow_pos (by decide)))).mpr
  have cast : (10 : ℚ) ^ (count - 1) * (x.quotient.2 * (Nat.pow 10 (point - count).toNat : Nat)) ≤
      x.quotient.1 * (Nat.pow 10 (-(point - count)).toNat : Nat) := by
    have split : (10 : ℚ) ^ (point - 1) = 10 ^ (count - 1) * 10 ^ (point - count) := by
      rw [← zpow_natCast, ← zpow_add₀ (by norm_num)]
      congr 1
      omega
    rw [split, ten_zpow (point - count), ← mul_div_assoc,
      div_le_div_iff₀ up (Nat.cast_pos.mpr positive)] at least
    linarith
  exact_mod_cast cast

end Shortest

open Shortest

theorem magnitude_of_digits {digits : Digits} (more : 10 ^ (count - 1) ≤ d) (counted : 1 ≤ count)
    (same : digits.value = d) (place : digits.point = point) :
    digits.magnitude ≤ d * 10 ^ (point - count) := by
  have long : count ≤ (render d).length := by
    have most := Decimal.lt_pow_length_render d
    have := (Nat.pow_lt_pow_iff_right (a := 10) (by decide)).mp (Nat.lt_of_le_of_lt more most)
    omega
  rw [Digits.magnitude, same, place]
  exact mul_le_mul_of_nonneg_left (zpow_le_zpow_right₀ (by norm_num) (by omega)) (Nat.cast_nonneg d)

/-- The shortest decimal lies at most half a place above the number. If it has no other digits than
zero, the point stands behind the first. -/
theorem shortest_bounds (format : Format) (some_ : x.significand ≠ 0) :
    (shortest format x).magnitude ≤ (x.significand + 1 / 2) * 2 ^ x.exponent ∧
      ((shortest format x).value = 0 → (shortest format x).point = 1) := by
  unfold shortest
  simp only
  split
  · rename_i d count found
    obtain ⟨counted, onGrid⟩ := of_search found
    obtain ⟨⟨gap, near⟩, -⟩ := of_onGrid? onGrid
    have close := le_of_distance? near
    split
    · rename_i full
      have whole : (d : ℚ) = 10 ^ (count : Int) := by
        rw [full, Nat.pow_eq, Nat.cast_pow, zpow_natCast]
        rfl
      refine ⟨?_, fun zero => absurd zero Nat.one_ne_zero⟩
      refine le_trans (le_of_eq ?_) close
      rw [whole, ← zpow_add₀ (by norm_num)]
      simp only [Digits.magnitude, Decimal.render_of_lt (show 1 < 10 by decide), List.length_singleton,
        Nat.cast_one, one_mul]
      congr 1
      omega
    · exact ⟨(magnitude_of_digits (pow_le_of_onGrid? some_ counted onGrid) counted rfl rfl).trans close,
        fun zero => absurd zero (ne_zero_of_distance? some_ near)⟩
  · refine ⟨?_, fun zero => ?_⟩
    · have floor : ((x.quotient.1 / x.quotient.2 : Nat) : ℚ) ≤ x.magnitude :=
        (Nat.cast_div_le).trans (le_of_eq x.quotient_eq)
      rw [Digits.magnitude, digitCount, Int.sub_self, zpow_zero, mul_one]
      refine floor.trans ?_
      rw [magnitude]
      have := Binary.two_zpow_pos x.exponent
      nlinarith
    · simp only at zero
      rw [zero, digitCount, Decimal.render_of_lt (by decide)]
      rfl

end FacetSearch.Number
