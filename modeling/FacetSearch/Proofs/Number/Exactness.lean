import FacetSearch.Proofs.Number.Rounding

/-!
# Whole numbers are exact

A quotient that is a whole number within the precision of a format is rounded to that number.
-/

namespace FacetSearch.Number.Binary

variable {format : Format} {n den : Nat} {x : Binary}

theorem roundHalfEven_mul (proper : den ≠ 0) (n : Nat) : roundHalfEven (n * den) den = n := by
  have positive := Nat.pos_of_ne_zero proper
  unfold roundHalfEven
  rw [Nat.mul_div_cancel n positive, Nat.mul_mod_left]
  exact if_pos (Or.inl positive)

theorem exponentFor_nonpos (some_ : n ≠ 0) (proper : den ≠ 0) (long : 1 ≤ format.precision)
    (small : n < 2 ^ format.precision) (low : format.leastExponent ≤ 0) :
    exponentFor format (n * den) den ≤ 0 := by
  have ratio : ((n * den : Nat) : ℚ) / den = n := by
    rw [Nat.cast_mul, mul_div_cancel_right₀ _ (Nat.cast_ne_zero.mpr proper)]
  have bounds := (exponentFor_bounds (Nat.mul_ne_zero some_ proper) proper long).2
  rw [ratio] at bounds
  rcases bounds with least | tight
  · rwa [least]
  · have below : (2 : ℚ) ^ (exponentFor format (n * den) den + format.precision - 1) <
        2 ^ (format.precision : Int) := by
      rw [zpow_natCast]
      exact tight.trans_lt (by exact_mod_cast small)
    have := (zpow_lt_zpow_iff_right₀ one_lt_two).mp below
    omega

/-- Whole numbers within the precision are numbers of the format. -/
theorem exists_nearest_of_whole (format : Format) (negative : Bool) (proper : den ≠ 0)
    (long : 1 ≤ format.precision) (small : n < 2 ^ format.precision) (low : format.leastExponent ≤ 0)
    (high : 1 ≤ format.greatestExponent) :
    ∃ x, nearest format negative (n * den) den = some x ∧ x.negative = negative ∧ x.magnitude = n := by
  by_cases zero : n = 0
  · refine ⟨⟨negative, 0, format.leastExponent⟩, ?_, rfl, ?_⟩
    · rw [nearest, zero, Nat.zero_mul, if_pos rfl]
    · rw [magnitude, zero, Nat.cast_zero, zero_mul]
  · have nonpos := exponentFor_nonpos zero proper long small low
    unfold nearest
    simp only [if_neg (Nat.mul_ne_zero zero proper)]
    generalize exponentFor format (n * den) den = e at nonpos
    -- The significand is the number shifted by the exponent, and nothing is lost.
    have shifted : roundHalfEven (scaled (n * den) den e).1 (scaled (n * den) den e).2 =
        n * Nat.pow 2 (-e).toNat := by
      have whole : (scaled (n * den) den e).1 = n * Nat.pow 2 (-e).toNat * (scaled (n * den) den e).2 := by
        rw [scaled, Int.toNat_of_nonpos nonpos]
        simp only [Nat.pow_eq, Nat.pow_zero, Nat.mul_one]
        exact Nat.mul_right_comm n den _
      rw [whole]
      exact roundHalfEven_mul (scaled_pos (Nat.pos_of_ne_zero proper) _ e).ne' _
    have value : ((n * Nat.pow 2 (-e).toNat : Nat) : ℚ) * 2 ^ e = n := by
      rw [two_zpow, Int.toNat_of_nonpos nonpos, Nat.cast_mul, mul_assoc,
        mul_div_cancel₀ _ (cast_pow_pos two_ne_zero _).ne']
      simp
    rw [shifted]
    by_cases full : n * Nat.pow 2 (-e).toNat = Nat.pow 2 format.precision
    · rw [if_pos full, if_neg (by simp only; omega)]
      refine ⟨_, rfl, rfl, ?_⟩
      rw [full] at value
      rw [magnitude, zpow_add_one₀ two_ne_zero, mul_comm ((2 : ℚ) ^ e), ← mul_assoc, ← value]
      congr 1
      have power : Nat.pow 2 (format.precision - 1) * 2 = Nat.pow 2 format.precision := by
        rw [Nat.pow_eq, Nat.pow_eq, ← Nat.pow_succ, Nat.succ_eq_add_one, Nat.sub_add_cancel long]
      exact_mod_cast power
    · rw [if_neg full, if_neg (by simp only; omega)]
      exact ⟨_, rfl, rfl, value⟩

theorem quotient_of_whole (whole : x.magnitude = n) : x.quotient.1 = n * x.quotient.2 := by
  have positive : (0 : ℚ) < x.quotient.2 := Nat.cast_pos.mpr (quotient_pos x)
  rw [← quotient_eq, div_eq_iff positive.ne'] at whole
  exact_mod_cast whole

end FacetSearch.Number.Binary
