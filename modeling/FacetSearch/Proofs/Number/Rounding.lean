import FacetSearch.Number.Binary
import Mathlib.Algebra.Order.Field.Power
import Mathlib.Data.Rat.Cast.Order
import Mathlib.Tactic.FieldSimp
import Mathlib.Tactic.Linarith
import Mathlib.Tactic.NormNum
import Mathlib.Tactic.Positivity

/-!
# Rounding to binary numbers

How far a rounded quotient can lie above the exact one, and when it lies within the format.
-/

namespace FacetSearch.Number.Binary

variable {format : Format} {negative : Bool} {num den n : Nat} {e : Int} {x y : Binary}

/-! ### Powers -/

theorem toNat_sub_toNat_neg (e : Int) : (e.toNat : Int) - (-e).toNat = e := by omega

theorem pow_toNat_div (b : Nat) (some_ : b ≠ 0) (e : Int) :
    ((Nat.pow b e.toNat : Nat) : ℚ) / (Nat.pow b (-e).toNat : Nat) = (b : ℚ) ^ e := by
  have base : (b : ℚ) ≠ 0 := Nat.cast_ne_zero.mpr some_
  rw [Nat.pow_eq, Nat.pow_eq, Nat.cast_pow, Nat.cast_pow, ← zpow_natCast, ← zpow_natCast, ← zpow_sub₀ base,
    toNat_sub_toNat_neg]

theorem two_zpow (e : Int) :
    (2 : ℚ) ^ e = (Nat.pow 2 e.toNat : Nat) / (Nat.pow 2 (-e).toNat : Nat) :=
  (pow_toNat_div 2 (by decide) e).symm

theorem cast_pow_pos {b : Nat} (some_ : b ≠ 0) (n : Nat) : (0 : ℚ) < (Nat.pow b n : Nat) :=
  Nat.cast_pos.mpr (Nat.pow_pos (Nat.pos_of_ne_zero some_))

/-! ### Values -/

def magnitude (x : Binary) : ℚ := x.significand * 2 ^ x.exponent

theorem magnitude_nonneg (x : Binary) : 0 ≤ x.magnitude := by
  unfold magnitude
  positivity

theorem quotient_pos (x : Binary) : 0 < x.quotient.2 := Nat.pow_pos Nat.two_pos

theorem quotient_eq (x : Binary) : (x.quotient.1 : ℚ) / x.quotient.2 = x.magnitude := by
  rw [quotient, magnitude, two_zpow, Nat.cast_mul, mul_div_assoc]

theorem scaled_eq (num den : Nat) (e : Int) :
    ((scaled num den e).1 : ℚ) / (scaled num den e).2 = num / den / 2 ^ e := by
  have up := cast_pow_pos (b := 2) (by decide) e.toNat
  have down := cast_pow_pos (b := 2) (by decide) (-e).toNat
  rw [scaled, Nat.cast_mul, Nat.cast_mul, two_zpow]
  field_simp

theorem scaled_pos (h : 0 < den) (num : Nat) (e : Int) : 0 < (scaled num den e).2 :=
  Nat.mul_pos h (Nat.pow_pos Nat.two_pos)

/-! ### The exponent -/

theorem two_zpow_pos (e : Int) : (0 : ℚ) < 2 ^ e := by positivity

theorem log2_bounds (h : n ≠ 0) :
    (2 : ℚ) ^ (n.log2 : Int) ≤ n ∧ (n : ℚ) < 2 ^ ((n.log2 : Int) + 1) := by
  constructor
  · rw [zpow_natCast]
    exact_mod_cast Nat.log2_self_le h
  · have below : n < 2 ^ (n.log2 + 1) := Nat.lt_log2_self
    rw [← Nat.cast_succ, zpow_natCast]
    exact_mod_cast below

section

variable (some_ : num ≠ 0) (proper : den ≠ 0)
include some_ proper

theorem quotient_log2_bounds :
    (2 : ℚ) ^ ((num.log2 : Int) - den.log2 - 1) ≤ num / den ∧
      (num : ℚ) / den < 2 ^ ((num.log2 : Int) - den.log2 + 1) := by
  obtain ⟨above, below⟩ := log2_bounds some_
  obtain ⟨above', below'⟩ := log2_bounds proper
  have positive : (0 : ℚ) < den := Nat.cast_pos.mpr (Nat.pos_of_ne_zero proper)
  constructor
  · rw [le_div_iff₀ positive]
    calc (2 : ℚ) ^ ((num.log2 : Int) - den.log2 - 1) * den
        ≤ 2 ^ ((num.log2 : Int) - den.log2 - 1) * 2 ^ ((den.log2 : Int) + 1) :=
          mul_le_mul_of_nonneg_left below'.le (two_zpow_pos _).le
      _ = 2 ^ (num.log2 : Int) := by
        rw [← zpow_add₀ two_ne_zero]
        congr 1
        omega
      _ ≤ num := above
  · rw [div_lt_iff₀ positive]
    calc (num : ℚ) < 2 ^ ((num.log2 : Int) + 1) := below
      _ = 2 ^ ((num.log2 : Int) - den.log2 + 1) * 2 ^ (den.log2 : Int) := by
        rw [← zpow_add₀ two_ne_zero]
        congr 1
        omega
      _ ≤ 2 ^ ((num.log2 : Int) - den.log2 + 1) * den :=
        mul_le_mul_of_nonneg_left above' (two_zpow_pos _).le

omit some_ in
theorem scaled_lt_iff (long : 1 ≤ format.precision) :
    (scaled num den e).1 < (scaled num den e).2 * Nat.pow 2 (format.precision - 1) ↔
      (num : ℚ) / den < 2 ^ (e + format.precision - 1) := by
  have bottom : (0 : ℚ) < (scaled num den e).2 :=
    Nat.cast_pos.mpr (scaled_pos (Nat.pos_of_ne_zero proper) num e)
  have power : (2 : ℚ) ^ (e + format.precision - 1) = (Nat.pow 2 (format.precision - 1) : Nat) * 2 ^ e := by
    rw [Nat.pow_eq, Nat.cast_pow, Nat.cast_two, ← zpow_natCast, ← zpow_add₀ two_ne_zero]
    congr 1
    omega
  rw [power, ← div_lt_iff₀ (two_zpow_pos e), ← scaled_eq, div_lt_iff₀ bottom, ← Nat.cast_mul,
    Nat.cast_lt, Nat.mul_comm]

/-- But for the least exponent of the format, the exponent is the one of full precision: the guess from
the lengths is right or one too large. -/
theorem exists_exponentFor (long : 1 ≤ format.precision) :
    ∃ fitted : Int, exponentFor format num den = max fitted format.leastExponent ∧
      (num : ℚ) / den < 2 ^ (fitted + format.precision) ∧
      (2 : ℚ) ^ (fitted + format.precision - 1) ≤ num / den := by
  obtain ⟨lower, upper⟩ := quotient_log2_bounds some_ proper
  generalize guessed : (num.log2 : Int) - den.log2 - format.precision + 1 = guess
  have fits : (scaled num den guess).1 < _ ↔ (num : ℚ) / den < _ := scaled_lt_iff proper long
  by_cases short : (num : ℚ) / den < 2 ^ (guess + format.precision - 1)
  · refine ⟨guess - 1, ?_, ?_, ?_⟩
    · simp only [exponentFor, guessed, if_pos (fits.mpr short)]
    · rwa [show guess - 1 + (format.precision : Int) = guess + format.precision - 1 by omega]
    · rwa [show guess - 1 + (format.precision : Int) - 1 = num.log2 - den.log2 - 1 by omega]
  · refine ⟨guess, ?_, ?_, not_lt.mp short⟩
    · simp only [exponentFor, guessed, if_neg (mt fits.mp short)]
    · rwa [show guess + (format.precision : Int) = num.log2 - den.log2 + 1 by omega]

/-- The exponent leaves room for the quotient, and no more than it needs unless it is the least. -/
theorem exponentFor_bounds (long : 1 ≤ format.precision) :
    (num : ℚ) / den < 2 ^ (exponentFor format num den + format.precision) ∧
      (exponentFor format num den = format.leastExponent ∨
        (2 : ℚ) ^ (exponentFor format num den + format.precision - 1) ≤ num / den) := by
  obtain ⟨fitted, same, roomy, tight⟩ := exists_exponentFor some_ proper long
  rw [same]
  refine ⟨roomy.trans_le (zpow_le_zpow_right₀ one_le_two (by omega)), ?_⟩
  rcases le_total fitted format.leastExponent with least | least
  · exact Or.inl (max_eq_right least)
  · rw [max_eq_left least]
    exact Or.inr tight

end

/-! ### Rounding -/

theorem roundHalfEven_le (proper : den ≠ 0) : (roundHalfEven num den : ℚ) ≤ num / den + 1 / 2 := by
  have positive : (0 : ℚ) < den := Nat.cast_pos.mpr (Nat.pos_of_ne_zero proper)
  have twice : 2 * roundHalfEven num den * den ≤ 2 * num + den := by
    have parts := Nat.div_add_mod num den
    have small := Nat.mod_lt num (Nat.pos_of_ne_zero proper)
    unfold roundHalfEven
    simp only
    generalize num / den = q at parts
    generalize num % den = r at parts small
    split
    · calc 2 * q * den = 2 * (den * q) := by rw [Nat.mul_assoc, Nat.mul_comm q]
        _ ≤ 2 * num + den := by omega
    · calc 2 * (q + 1) * den = 2 * (den * q) + 2 * den := by
            rw [Nat.mul_assoc, Nat.mul_comm (q + 1), Nat.mul_add, Nat.mul_add, Nat.mul_one]
        _ ≤ 2 * num + den := by omega
  have cast : (2 : ℚ) * roundHalfEven num den * den ≤ 2 * num + den := by exact_mod_cast twice
  rw [div_add_div _ _ positive.ne' two_ne_zero, le_div_iff₀ (by positivity)]
  linarith

theorem roundHalfEven_le_of_lt {bound : Nat} (proper : den ≠ 0) (h : num < bound * den) :
    roundHalfEven num den ≤ bound := by
  have below : num / den < bound := (Nat.div_lt_iff_lt_mul (Nat.pos_of_ne_zero proper)).mpr h
  unfold roundHalfEven
  simp only
  split
  · omega
  · omega

theorem places_le (proper : den ≠ 0) (num : Nat) (e : Int) :
    (roundHalfEven (scaled num den e).1 (scaled num den e).2 : ℚ) * 2 ^ e ≤ num / den + 2 ^ e / 2 := by
  have bottom := scaled_pos (Nat.pos_of_ne_zero proper) num e
  have rounded : (roundHalfEven (scaled num den e).1 (scaled num den e).2 : ℚ) ≤ _ :=
    roundHalfEven_le bottom.ne'
  rw [scaled_eq] at rounded
  calc _ ≤ ((num : ℚ) / den / 2 ^ e + 1 / 2) * 2 ^ e :=
        mul_le_mul_of_nonneg_right rounded (two_zpow_pos e).le
    _ = num / den + 2 ^ e / 2 := by
        have := (two_zpow_pos e).ne'
        field_simp

section

variable (proper : den ≠ 0) (long : 1 ≤ format.precision)
include proper long

theorem roundHalfEven_scaled_le (some_ : num ≠ 0) :
    roundHalfEven (scaled num den (exponentFor format num den)).1
      (scaled num den (exponentFor format num den)).2 ≤ Nat.pow 2 format.precision := by
  obtain ⟨roomy, -⟩ := exponentFor_bounds some_ proper long
  generalize exponentFor format num den = e at roomy
  have bottom := scaled_pos (Nat.pos_of_ne_zero proper) num e
  apply roundHalfEven_le_of_lt bottom.ne'
  rw [zpow_add₀ two_ne_zero, mul_comm, ← div_lt_iff₀ (two_zpow_pos e), ← scaled_eq,
    div_lt_iff₀ (Nat.cast_pos.mpr bottom), zpow_natCast] at roomy
  rw [Nat.pow_eq]
  exact_mod_cast roomy

theorem exists_rounded (negative : Bool) (some_ : num ≠ 0) : ∃ x : Binary,
      nearest format negative num den = (if format.greatestExponent < x.exponent then none else some x) ∧
      x.significand < Nat.pow 2 format.precision ∧
      x.magnitude ≤ num / den + 2 ^ exponentFor format num den / 2 ∧
      (x.exponent = exponentFor format num den ∨
        x.exponent = exponentFor format num den + 1 ∧
          x.significand = Nat.pow 2 (format.precision - 1)) := by
  have most := roundHalfEven_scaled_le proper long some_
  have places := places_le proper num (exponentFor format num den)
  unfold nearest
  simp only [if_neg some_]
  generalize exponentFor format num den = e at most places ⊢
  generalize roundHalfEven (scaled num den e).1 (scaled num den e).2 = m at most places ⊢
  have power : 2 * Nat.pow 2 (format.precision - 1) = Nat.pow 2 format.precision := by
    rw [Nat.pow_eq, Nat.pow_eq, ← Nat.pow_add_one', Nat.sub_add_cancel long]
  by_cases full : m = Nat.pow 2 format.precision
  · refine ⟨⟨negative, Nat.pow 2 (format.precision - 1), e + 1⟩, by rw [if_pos full], ?_, ?_,
      Or.inr ⟨rfl, rfl⟩⟩
    · have := Nat.pow_pos (n := format.precision - 1) Nat.two_pos
      rw [← power]
      simp only [Nat.pow_eq]
      omega
    · rw [full, ← power] at places
      rw [magnitude, zpow_add_one₀ two_ne_zero]
      push_cast at places ⊢
      linarith
  · refine ⟨⟨negative, m, e⟩, by rw [if_neg full], lt_of_le_of_ne most full, places, Or.inl rfl⟩

end

theorem fits_of_nearest (proper : den ≠ 0) (long : 1 ≤ format.precision)
    (ordered : format.leastExponent ≤ format.greatestExponent)
    (found : nearest format negative num den = some y) :
    y.significand < Nat.pow 2 format.precision ∧ y.exponent ≤ format.greatestExponent := by
  by_cases zero : num = 0
  · rw [nearest, if_pos zero] at found
    obtain rfl := Option.some.inj found
    exact ⟨Nat.pow_pos Nat.two_pos, ordered⟩
  · obtain ⟨x, rounded, small, -⟩ := exists_rounded proper long negative zero
    rw [rounded] at found
    split at found
    · cases found
    · rename_i within
      obtain rfl := Option.some.inj found
      exact ⟨small, not_lt.mp within⟩

/-- A rounded number lies at most half a place above the quotient. -/
theorem magnitude_of_nearest (proper : den ≠ 0) (long : 1 ≤ format.precision)
    (found : nearest format negative num den = some y) : y.magnitude ≤ num / den *
      (1 + 1 / 2 ^ format.precision) + 2 ^ format.leastExponent / 2 := by
  have least := two_zpow_pos format.leastExponent
  have ratio : (0 : ℚ) ≤ num / den := by positivity
  have part : (0 : ℚ) < 1 / 2 ^ format.precision := by positivity
  by_cases zero : num = 0
  · rw [nearest, if_pos zero] at found
    obtain rfl := Option.some.inj found
    simp only [magnitude, Nat.cast_zero, zero_mul]
    positivity
  · obtain ⟨x, rounded, -, close, -⟩ := exists_rounded proper long negative zero
    rw [rounded] at found
    split at found
    · cases found
    · obtain rfl := Option.some.inj found
      refine close.trans ?_
      rcases (exponentFor_bounds zero proper long).2 with same | tight
      · rw [same]
        nlinarith
      · have half : (2 : ℚ) ^ exponentFor format num den / 2 ≤ num / den * (1 / 2 ^ format.precision) := by
          calc (2 : ℚ) ^ exponentFor format num den / 2
              = 2 ^ (exponentFor format num den + format.precision - 1) * (1 / 2 ^ format.precision) := by
                rw [zpow_sub_one₀ two_ne_zero, zpow_add₀ two_ne_zero, zpow_natCast]
                field_simp
            _ ≤ num / den * (1 / 2 ^ format.precision) := mul_le_mul_of_nonneg_right tight part.le
        linarith

/-- A quotient below the largest number and half a place is rounded to a number. -/
theorem isSome_nearest (proper : den ≠ 0) (long : 1 ≤ format.precision)
    (ordered : format.leastExponent ≤ format.greatestExponent)
    (small : (num : ℚ) / den < (2 ^ format.precision - 1 / 2) * 2 ^ format.greatestExponent) :
    (nearest format negative num den).isSome = true := by
  by_cases zero : num = 0
  · rw [nearest, if_pos zero]
    rfl
  · obtain ⟨x, rounded, -, close, exponent⟩ := exists_rounded proper long negative zero
    rw [rounded, if_neg]
    · rfl
    · intro beyond
      have greatest := two_zpow_pos format.greatestExponent
      have bounds := (exponentFor_bounds zero proper long).2
      generalize exponentFor format num den = e at close exponent bounds
      by_cases outside : format.greatestExponent < e
      · have tight := bounds.resolve_left (by omega)
        have large : (2 : ℚ) ^ format.precision * 2 ^ format.greatestExponent ≤
            2 ^ (e + format.precision - 1) := by
          rw [← zpow_natCast, ← zpow_add₀ two_ne_zero]
          exact zpow_le_zpow_right₀ one_le_two (by omega)
        nlinarith
      · -- Only rounding up to a power of two leads beyond the greatest exponent.
        obtain ⟨next, full⟩ := exponent.resolve_left (by omega)
        have same : e = format.greatestExponent := by omega
        have power : ((Nat.pow 2 (format.precision - 1) : Nat) : ℚ) * 2 = 2 ^ format.precision := by
          rw [Nat.pow_eq, Nat.cast_pow, Nat.cast_two, ← pow_succ, Nat.sub_add_cancel long]
        rw [magnitude, full, next, zpow_add_one₀ two_ne_zero, same] at close
        nlinarith

end FacetSearch.Number.Binary
