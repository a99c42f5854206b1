import FacetSearch.Json.Numeral
import FacetSearch.Json.Printer
import FacetSearch.Proofs.Number.Shortest
import Mathlib.Tactic.Ring

/-!
# Numbers in JSON text

An integer of 64 bits is read as it was written. A binary number is read as some binary number again:
its shortest decimal is never taken for one that is too large.
-/

namespace FacetSearch.Json

open Number (Binary Digits Format maxWord)
open Number.Decimal (render digit)

variable {cs rest whole : List Char} {n : Nat}

/-! ### Runs of digits -/

def digitValues (cs : List Char) : List Nat := cs.map fun c => c.toNat - 0x30

theorem length_digitValues (cs : List Char) : (digitValues cs).length = cs.length := List.length_map _

namespace Numeral

theorem digitsOf_append (digits : ∀ c ∈ cs, c.isDigit = true)
    (ends : ∀ c ∈ rest.head?, c.isDigit = false) : digitsOf (cs ++ rest) = (digitValues cs, rest) := by
  have stop : rest.takeWhile Char.isDigit = [] ∧ rest.dropWhile Char.isDigit = rest := by
    cases rest with
    | nil => exact ⟨rfl, rfl⟩
    | cons c rest =>
      have other := ends c rfl
      simp [other]
  rw [digitsOf, List.takeWhile_append_of_pos digits, List.dropWhile_append_of_pos digits, stop.1, stop.2,
    List.append_nil]
  rfl

def valueFrom (acc : Nat) (digits : List Nat) : Nat := digits.foldl (fun acc d => acc * 10 + d) acc

theorem readFrom_eq (acc : Nat) (digits : ∀ c ∈ cs, c.isDigit = true) :
    Number.Decimal.readFrom acc cs = some (valueFrom acc (digitValues cs)) := by
  induction cs generalizing acc with
  | nil => rfl
  | cons c cs ih =>
    rw [Number.Decimal.readFrom, Number.Decimal.value?, if_pos (digits c List.mem_cons_self), Option.bind_some,
      ih _ fun d hd => digits d (List.mem_cons_of_mem c hd)]
    rfl

theorem valueOf_render (n : Nat) : valueOf (digitValues (render n)) = n := by
  have read := Number.Decimal.digits?_render n
  unfold Number.Decimal.digits? at read
  split at read
  · cases read
  · rw [readFrom_eq 0 fun c => Number.Decimal.isDigit_of_mem_render] at read
    exact Option.some.inj read

theorem le_valueFrom (acc : Nat) (ds : List Nat) : acc ≤ valueFrom acc ds := by
  induction ds generalizing acc with
  | nil => exact le_rfl
  | cons d ds ih => exact le_trans (by omega) (ih (acc * 10 + d))

theorem mul_pow_le_valueFrom (acc : Nat) (ds : List Nat) : acc * 10 ^ ds.length ≤ valueFrom acc ds := by
  induction ds generalizing acc with
  | nil => exact (Nat.mul_one acc).le
  | cons d ds ih =>
    refine le_trans ?_ (ih (acc * 10 + d))
    rw [List.length_cons, Nat.pow_succ', ← Nat.mul_assoc]
    exact Nat.mul_le_mul_right _ (Nat.le_add_right _ _)

theorem leading_of_le {acc : Nat} {ds : List Nat} (fits : valueFrom acc ds ≤ maxWord) :
    leading acc ds = (valueFrom acc ds, ds.length) := by
  induction ds generalizing acc with
  | nil => rfl
  | cons d ds ih =>
    have first := le_valueFrom (acc * 10 + d) ds
    have fits' : valueFrom (acc * 10 + d) ds ≤ maxWord := fits
    rw [leading, if_neg (by omega), ih fits']
    rfl

theorem leading_bounds {acc : Nat} (small : acc ≤ maxWord) (ds : List Nat) :
    (leading acc ds).1 ≤ maxWord ∧ (leading acc ds).2 ≤ ds.length ∧
      (leading acc ds).1 * 10 ^ (ds.length - (leading acc ds).2) ≤ valueFrom acc ds := by
  induction ds generalizing acc with
  | nil => exact ⟨small, le_rfl, (Nat.mul_one acc).le⟩
  | cons d ds ih =>
    rw [leading]
    split
    · refine ⟨small, Nat.zero_le _, ?_⟩
      rw [Nat.sub_zero]
      exact mul_pow_le_valueFrom acc (d :: ds)
    · have next : acc * 10 + d ≤ maxWord := by omega
      obtain ⟨bound, few, front⟩ := ih next
      refine ⟨bound, Nat.succ_le_succ few, ?_⟩
      rw [List.length_cons, Nat.add_sub_add_right]
      exact front

/-! ### The parts of a numeral -/

def fractionText (fraction : Option (List Char)) : List Char := (fraction.map ('.' :: ·)).getD []

def exponentText (exponent : Option (Bool × List Char)) : List Char :=
  (exponent.map fun (minus, cs) => 'e' :: ((if minus then ['-'] else []) ++ cs)).getD []

/-- A numeral as it is written: sign, whole digits, fraction and exponent. -/
def written (negative : Bool) (whole : List Char) (fraction : Option (List Char))
    (exponent : Option (Bool × List Char)) : List Char :=
  (if negative then ['-'] else []) ++ (whole ++ (fractionText fraction ++ exponentText exponent))

def IsRun (cs : List Char) : Prop := cs ≠ [] ∧ ∀ c ∈ cs, c.isDigit = true

theorem isRun_render (n : Nat) : IsRun (render n) :=
  ⟨Number.Decimal.renderOnto_ne_nil n [], fun _ => Number.Decimal.isDigit_of_mem_render⟩

theorem digitValues_ne_nil (run : IsRun cs) : digitValues cs ≠ [] :=
  mt List.map_eq_nil_iff.mp run.1

variable {negative : Bool} {fraction : Option (List Char)} {exponent : Option (Bool × List Char)}

theorem head_of_isRun (run : IsRun cs) : ∃ c rest, cs = c :: rest ∧ c.isDigit = true := by
  obtain ⟨c, rest, rfl⟩ := List.exists_cons_of_ne_nil run.1
  exact ⟨c, rest, rfl, run.2 c List.mem_cons_self⟩

theorem ne_of_isDigit {c d : Char} (digit : c.isDigit = true) (other : d.isDigit = false) : c ≠ d := by
  rintro rfl
  rw [digit] at other
  cases other

/-- Parts that a numeral may have: runs of digits, and of several whole digits the first no zero. -/
structure AreParts (whole : List Char) (fraction : Option (List Char))
    (exponent : Option (Bool × List Char)) : Prop where
  run : IsRun whole
  plain : whole.length = 1 ∨ whole.head? ≠ some '0'
  fractional : ∀ cs ∈ fraction, IsRun cs
  exponential : ∀ e ∈ exponent, IsRun e.2

theorem head_exponentText : ∀ c ∈ (exponentText exponent).head?, c.isDigit = false := by
  intro c hc
  cases exponent with
  | none => cases hc
  | some e =>
    obtain rfl := Option.some.inj hc
    decide

theorem digitsOf_run (run : IsRun cs) : digitsOf cs = (digitValues cs, []) := by
  have read : digitsOf (cs ++ []) = _ := digitsOf_append run.2 (fun c hc => by cases hc)
  rwa [List.append_nil] at read

theorem tail?_written (digits : List Nat) (hf : ∀ cs ∈ fraction, IsRun cs)
    (he : ∀ e ∈ exponent, IsRun e.2) :
    tail? negative digits (fractionText fraction ++ exponentText exponent) =
    some ⟨negative, digits, fraction.map digitValues, exponent.map fun e => (e.1, digitValues e.2)⟩ := by
  -- Whatever stands before the exponent, a run of digits is neither of its signs.
  cases exponent with
  | none =>
    cases fraction with
    | none => rfl
    | some f =>
      have run := hf f rfl
      simp [tail?, fractionText, exponentText, digitsOf_run run, digitValues_ne_nil run]
  | some e =>
    obtain ⟨minus, ds⟩ := e
    have run := he (minus, ds) rfl
    have read := digitsOf_run run
    have filled := digitValues_ne_nil run
    obtain ⟨c, rest, rfl, isDigit⟩ := head_of_isRun run
    have first : c ≠ '-' ∧ c ≠ '+' := ⟨ne_of_isDigit isDigit (by decide), ne_of_isDigit isDigit (by decide)⟩
    obtain ⟨d, values, digits_⟩ := List.exists_cons_of_ne_nil filled
    rw [digits_] at read
    cases fraction with
    | none =>
      cases minus with
      | true => simp [tail?, fractionText, exponentText, read, digits_]
      | false => simp [tail?, fractionText, exponentText, read, digits_, first]
    | some f =>
      have front := hf f rfl
      have ends : ∀ cs : List Char, ∀ c ∈ ('e' :: cs).head?, c.isDigit = false := by
        intro cs c hc
        obtain rfl := Option.some.inj hc
        decide
      have split := fun cs => digitsOf_append front.2 (ends cs)
      have nonempty := digitValues_ne_nil front
      cases minus with
      | true => simp [tail?, fractionText, exponentText, split, nonempty, read, digits_]
      | false => simp [tail?, fractionText, exponentText, split, nonempty, read, digits_, first]

def signed (cs : List Char) : Bool × List Char :=
  match cs with
  | '-' :: rest => (true, rest)
  | _ => (false, cs)

theorem signed_of_ne (unsigned : c ≠ '-') (cs : List Char) : signed (c :: cs) = (false, c :: cs) := by
  unfold signed
  split
  · rename_i same
    exact absurd (List.cons.inj same).1 unsigned
  · rfl

def unsignedParts? (negative : Bool) (cs : List Char) : Option Numeral :=
  match digitsOf cs with
  | ([], _) => none
  | (0 :: _ :: _, _) => none
  | (whole, rest) => tail? negative whole rest

theorem parts?_eq (cs : List Char) : parts? cs = unsignedParts? (signed cs).1 (signed cs).2 := rfl

theorem parts?_written (parts : AreParts whole fraction exponent) :
    parts? (written negative whole fraction exponent) = some ⟨negative, digitValues whole,
      fraction.map digitValues, exponent.map fun e => (e.1, digitValues e.2)⟩ := by
  obtain ⟨hw, plain, hf, he⟩ := parts
  have ends : ∀ c ∈ (fractionText fraction ++ exponentText exponent).head?, c.isDigit = false := by
    cases fraction with
    | none => exact head_exponentText
    | some f =>
      intro c hc
      obtain rfl := Option.some.inj hc
      decide
  have split := digitsOf_append hw.2 ends
  have rest : tail? negative (digitValues whole) _ = some _ := tail?_written (digitValues whole) hf he
  obtain ⟨c, cs, rfl, isDigit⟩ := head_of_isRun hw
  have first : c ≠ '-' := ne_of_isDigit isDigit (by decide)
  have sign : signed (written negative (c :: cs) fraction exponent) =
      (negative, c :: cs ++ (fractionText fraction ++ exponentText exponent)) := by
    cases negative with
    | true => rfl
    | false => exact signed_of_ne first _
  rw [parts?_eq, sign, unsignedParts?, split]
  split
  · rename_i nothing
    exact absurd (Prod.mk.inj nothing).1 (digitValues_ne_nil hw)
  · rename_i d ds zero
    obtain ⟨head, tail⟩ := List.cons.inj (Prod.mk.inj zero).1
    have value : Number.Decimal.value? c = some 0 := by
      exact (if_pos isDigit).trans (congrArg some head)
    obtain ⟨rfl, -⟩ := Number.Decimal.eq_digit_of_value? value
    rcases plain with single | other
    · have none_ : cs = [] := List.length_eq_zero_iff.mp (Nat.succ.inj single)
      rw [none_] at tail
      cases tail
    · exact absurd rfl other
  · rename_i same
    obtain ⟨rfl, rfl⟩ := Prod.mk.inj same
    exact rest

theorem areParts_render (n : Nat) : AreParts (render n) none none := by
  refine ⟨isRun_render n, ?_, fun _ hc => (Option.not_mem_none _ hc).elim,
    fun _ he => (Option.not_mem_none _ he).elim⟩
  by_cases zero : n = 0
  · rw [zero, Number.Decimal.render_of_lt (by decide)]
    exact Or.inl rfl
  · exact Or.inr (Number.Decimal.head?_render zero)

end Numeral

open Numeral

/-! ### Integers -/

theorem intText_eq (i : Int) :
    intText i = written (decide (i < 0)) (render i.natAbs) none none := by
  cases i <;> simp [intText, written, fractionText, exponentText]

theorem number?_intText {i : Int} (least : -0x8000000000000000 ≤ i) (most : i ≤ maxWord) :
    number? (intText i) = some (.int i) := by
  rw [number?, intText_eq, parts?_written (areParts_render _), Option.bind_some]
  cases i with
  | ofNat n =>
    have small : n ≤ maxWord := Int.ofNat_le.mp most
    simp [value?, valueOf_render, small]
  | negSucc n =>
    have small : n + 1 ≤ 0x8000000000000000 := by omega
    rw [Int.natAbs_negSucc, decide_eq_true (Int.negSucc_lt_zero n)]
    simp [value?, valueOf_render, small, Int.negSucc_eq]

/-! ### Scaling by a power of ten -/

/-- How much the value of a number other than zero may grow by rounding. -/
def growth : ℚ := 1 + 1 / 2 ^ 52

/-- What is too large for a binary number. -/
def overflow : ℚ := (2 ^ 53 - 1 / 2) * 2 ^ 971

theorem two_pow_lt_overflow : (2 : ℚ) ^ 1000 < overflow := by
  have place : (0 : ℚ) < 2 ^ 971 := by positivity
  rw [overflow, show (1000 : Nat) = 29 + 971 by rfl, pow_add]
  exact mul_lt_mul_of_pos_right (by norm_num) place

theorem overflow_lt_pow : overflow < (10 : ℚ) ^ 309 := by
  have cast : ((2 ^ 53 * 2 ^ 971 : Nat) : ℚ) < (10 ^ 309 : Nat) := Nat.cast_lt.mpr (by decide +kernel)
  have place : (0 : ℚ) < 2 ^ 971 := by positivity
  rw [Nat.cast_mul, Nat.cast_pow, Nat.cast_pow, Nat.cast_pow] at cast
  refine lt_of_le_of_lt ?_ cast
  rw [overflow]
  exact mul_le_mul_of_nonneg_right (by norm_num) place.le

theorem lt_overflow {a : ℚ} {n : Nat} (bound : a ≤ 2 ^ n) (small : n ≤ 1000) : a < overflow :=
  (bound.trans (pow_le_pow_right₀ one_le_two small)).trans_lt two_pow_lt_overflow

theorem overflow_eq : overflow = (2 ^ Format.double.precision - 1 / 2) * 2 ^ Format.double.greatestExponent := by
  rw [overflow]
  norm_num [Format.double]

variable {negative : Bool} {num den s : Nat} {x y : Binary} {power : Int}

theorem isSome_nearest (proper : den ≠ 0) (small : (num : ℚ) / den < overflow) :
    (Binary.nearest Format.double negative num den).isSome = true :=
  Binary.isSome_nearest proper (by decide) (by decide) (overflow_eq ▸ small)

theorem magnitude_of_nearest (proper : den ≠ 0) (large : 1 ≤ (num : ℚ) / den)
    (found : Binary.nearest Format.double negative num den = some y) :
    y.magnitude ≤ num / den * growth := by
  have close := Binary.magnitude_of_nearest proper (by decide) found
  have tiny : (2 : ℚ) ^ Format.double.leastExponent / 2 ≤ 1 / 2 ^ 53 := by
    have power : (2 : ℚ) ^ Format.double.leastExponent ≤ 2 ^ (-52 : Int) :=
      zpow_le_zpow_right₀ one_le_two (by decide)
    have place : (2 : ℚ) ^ (-52 : Int) = 1 / 2 ^ 52 := by norm_num
    rw [place] at power
    linarith
  have half : (1 : ℚ) / 2 ^ Format.double.precision = 1 / 2 ^ 53 := rfl
  rw [half] at close
  rw [growth]
  nlinarith

theorem exists_tenTo {n : Nat} (small : n ≤ powerLimit) : ∃ t : Binary, tenTo n = some t ∧
    1 ≤ t.magnitude ∧ t.magnitude ≤ 10 ^ n * growth := by
  have all : ∀ n < powerLimit + 1, (tenTo n).any (fun t => t.quotient.2 ≤ t.quotient.1) = true := by
    decide +kernel
  have ends := all n (by omega)
  cases found : tenTo n with
  | none =>
    rw [found] at ends
    cases ends
  | some t =>
    rw [found, Option.any_some, decide_eq_true_eq] at ends
    have one : ((Nat.pow 10 n : Nat) : ℚ) / (1 : Nat) = 10 ^ n := by
      rw [Nat.pow_eq, Nat.cast_one, div_one, Nat.cast_pow]
      rfl
    have large : 1 ≤ ((Nat.pow 10 n : Nat) : ℚ) / (1 : Nat) := by
      rw [one]
      exact one_le_pow₀ (by norm_num)
    refine ⟨t, rfl, ?_, ?_⟩
    · rw [← t.quotient_eq, one_le_div (Nat.cast_pos.mpr t.quotient_pos)]
      exact Nat.cast_le.mpr ends
    · rw [← one]
      exact magnitude_of_nearest (by decide) large found

theorem cast_le_of_le_maxWord (small : s ≤ maxWord) : (s : ℚ) ≤ 2 ^ 64 := by
  have cast : (s : ℚ) ≤ (maxWord : Nat) := Nat.cast_le.mpr small
  refine cast.trans ?_
  norm_num [maxWord]

theorem exists_ofNat (small : s ≤ maxWord) : ∃ y : Binary, Binary.ofNat Format.double s = some y ∧
    (s = 0 → y.significand = 0) ∧ y.magnitude ≤ s * growth := by
  by_cases zero : s = 0
  · subst zero
    refine ⟨_, rfl, fun _ => rfl, ?_⟩
    simp [Binary.magnitude]
  · have one : (s : ℚ) / (1 : Nat) = s := by rw [Nat.cast_one, div_one]
    have within : (s : ℚ) / (1 : Nat) < overflow := by
      rw [one]
      exact lt_overflow (cast_le_of_le_maxWord small) (by decide)
    have large : 1 ≤ (s : ℚ) / (1 : Nat) := by
      rw [one]
      exact_mod_cast Nat.pos_of_ne_zero zero
    have rounds : (Binary.nearest Format.double false s 1).isSome = true :=
      isSome_nearest Nat.one_ne_zero within
    obtain ⟨y, found⟩ := Option.isSome_iff_exists.mp rounds
    refine ⟨y, found, fun none_ => absurd none_ zero, ?_⟩
    have close := magnitude_of_nearest Nat.one_ne_zero large found
    rwa [one] at close

theorem quotient_div (y t : Binary) : ((y.quotient.1 * t.quotient.2 : Nat) : ℚ) /
    (y.quotient.2 * t.quotient.1 : Nat) = y.magnitude / t.magnitude := by
  rw [← y.quotient_eq, ← t.quotient_eq, Nat.cast_mul, Nat.cast_mul, div_div_div_eq]

theorem quotient_mul (y t : Binary) : ((y.quotient.1 * t.quotient.1 : Nat) : ℚ) /
    (y.quotient.2 * t.quotient.2 : Nat) = y.magnitude * t.magnitude := by
  rw [← y.quotient_eq, ← t.quotient_eq, Nat.cast_mul, Nat.cast_mul, div_mul_div_comm]

theorem exists_divByTen {n : Nat} (small : n ≤ powerLimit) (bound : y.magnitude ≤ 2 ^ 70) :
    ∃ z : Binary, divByTen y n = some z ∧ z.magnitude ≤ 2 * y.magnitude + 1 := by
  obtain ⟨t, ten, large, -⟩ := exists_tenTo small
  have filled : t.quotient.1 ≠ 0 := by
    intro zero
    rw [← t.quotient_eq, zero, Nat.cast_zero, zero_div] at large
    norm_num at large
  have proper : y.quotient.2 * t.quotient.1 ≠ 0 := Nat.mul_ne_zero y.quotient_pos.ne' filled
  have less : y.magnitude / t.magnitude ≤ y.magnitude := div_le_self y.magnitude_nonneg large
  have within : ((y.quotient.1 * t.quotient.2 : Nat) : ℚ) / (y.quotient.2 * t.quotient.1 : Nat) < overflow := by
    rw [quotient_div]
    exact lt_overflow (less.trans bound) (by decide)
  have rounds : (Binary.nearest Format.double (y.negative != t.negative)
      (y.quotient.1 * t.quotient.2) (y.quotient.2 * t.quotient.1)).isSome = true :=
    isSome_nearest proper within
  obtain ⟨z, found⟩ := Option.isSome_iff_exists.mp rounds
  refine ⟨z, ?_, ?_⟩
  · rw [divByTen, ten, Option.bind_some]
    exact found
  · have close := Binary.magnitude_of_nearest proper (by decide) found
    have tiny : (2 : ℚ) ^ Format.double.leastExponent ≤ 2 ^ (0 : Int) :=
      zpow_le_zpow_right₀ one_le_two (by decide)
    have half : (1 : ℚ) / 2 ^ Format.double.precision ≤ 1 := by norm_num [Format.double]
    rw [quotient_div] at close
    have nonneg : 0 ≤ y.magnitude / t.magnitude := div_nonneg y.magnitude_nonneg t.magnitude_nonneg
    rw [zpow_zero] at tiny
    nlinarith

/-- A power of ten that scales a number other than zero up to another is one of the numbers. -/
theorem le_powerLimit {n : Nat} (some_ : s ≠ 0) (most : (s : ℚ) * 10 ^ n * growth ^ 2 < overflow) :
    n ≤ powerLimit := by
  by_contra more
  have large : 309 ≤ n := by
    rw [powerLimit] at more
    omega
  have power : (10 : ℚ) ^ 309 ≤ 10 ^ n := pow_le_pow_right₀ (by norm_num) large
  have one : (1 : ℚ) ≤ s := by exact_mod_cast Nat.pos_of_ne_zero some_
  have grown : (1 : ℚ) ≤ growth ^ 2 := by norm_num [growth]
  have product : (10 : ℚ) ^ n ≤ s * 10 ^ n * growth ^ 2 := by
    calc (10 : ℚ) ^ n = 1 * 10 ^ n * 1 := by ring
      _ ≤ s * 10 ^ n * growth ^ 2 := by gcongr
  exact absurd (overflow_lt_pow.trans_le (power.trans product)) most.not_gt

theorem isSome_scale_up (small : s ≤ maxWord) (read : Binary.ofNat Format.double s = some y)
    (upward : 0 ≤ power) (most : (s : ℚ) * 10 ^ power * growth ^ 2 < overflow) :
    (scale y power).isSome = true := by
  obtain ⟨_, read', zero, bound⟩ := exists_ofNat small
  obtain rfl := Option.some.inj (read.symm.trans read')
  unfold scale
  simp only
  split
  · rfl
  · rename_i nonzero
    obtain ⟨n, rfl⟩ := Int.eq_ofNat_of_zero_le upward
    rw [zpow_natCast] at most
    have few := le_powerLimit (fun none_ => nonzero (zero none_)) most
    obtain ⟨t, ten, -, close⟩ := exists_tenTo few
    rw [Int.natAbs_natCast, if_pos few, ten, Option.bind_some]
    apply isSome_nearest (Nat.mul_ne_zero y.quotient_pos.ne' t.quotient_pos.ne')
    rw [quotient_mul]
    calc y.magnitude * t.magnitude ≤ (s * growth) * (10 ^ n * growth) :=
          mul_le_mul bound close t.magnitude_nonneg (y.magnitude_nonneg.trans bound)
      _ = s * 10 ^ n * growth ^ 2 := by ring
      _ < overflow := most

theorem isSome_scale_down (wide : y.magnitude ≤ 2 ^ 65) (downward : power < 0) :
    (scale y power).isSome = true := by
  unfold scale
  simp only
  rw [if_neg downward.not_ge]
  split
  · rfl
  · split
    · rename_i few
      obtain ⟨z, found, -⟩ := exists_divByTen few (wide.trans (by norm_num))
      rw [found]
      rfl
    · split
      · rename_i twice
        obtain ⟨z, found, less⟩ := exists_divByTen le_rfl (wide.trans (by norm_num))
        have narrow : z.magnitude ≤ 2 ^ 70 := by
          norm_num at wide ⊢
          linarith
        obtain ⟨z', found', -⟩ := exists_divByTen
          (show power.natAbs - powerLimit ≤ powerLimit by omega) narrow
        rw [found, Option.bind_some, found']
        rfl
      · rfl

/-- A number of 64 bits can be scaled down by any power of ten, and up where the product is not too
large. -/
theorem isSome_scale (small : s ≤ maxWord) (read : Binary.ofNat Format.double s = some y)
    (up : 0 ≤ power → (s : ℚ) * 10 ^ power * growth ^ 2 < overflow) : (scale y power).isSome = true := by
  by_cases upward : 0 ≤ power
  · exact isSome_scale_up small read upward (up upward)
  · obtain ⟨_, read', -, bound⟩ := exists_ofNat small
    obtain rfl := Option.some.inj (read.symm.trans read')
    have wide : y.magnitude ≤ 2 ^ 65 := by
      calc y.magnitude ≤ s * growth := bound
        _ ≤ 2 ^ 64 * 2 := mul_le_mul (cast_le_of_le_maxWord small) (by norm_num [growth])
          (by norm_num [growth]) (by norm_num)
        _ = 2 ^ 65 := by norm_num
    exact isSome_scale_down wide (not_le.mp upward)

/-! ### Binary numbers -/

theorem lt_overflow_of_nonpos (small : s ≤ maxWord) (low : power ≤ 0) :
    (s : ℚ) * 10 ^ power * growth ^ 2 < overflow := by
  have shrunk : (10 : ℚ) ^ power ≤ 1 := zpow_le_one_of_nonpos₀ (by norm_num) low
  have bound : (s : ℚ) * 10 ^ power * growth ^ 2 ≤ 2 ^ 65 := by
    calc (s : ℚ) * 10 ^ power * growth ^ 2 ≤ 2 ^ 64 * 1 * 2 := by
          have word := cast_le_of_le_maxWord small
          have grown : growth ^ 2 ≤ 2 := by norm_num [growth]
          gcongr
      _ = 2 ^ 65 := by norm_num
  exact lt_overflow bound (by decide)

theorem mul_zpow_le {value places length : Nat} (few : places ≤ length)
    (front : s * 10 ^ (length - places) ≤ value) (e : Int) :
    (s : ℚ) * 10 ^ (e - places) ≤ value * 10 ^ (e - length) := by
  have cast : (s : ℚ) * 10 ^ (length - places) ≤ value := by exact_mod_cast front
  calc (s : ℚ) * 10 ^ (e - places) = s * 10 ^ (length - places) * 10 ^ (e - length) := by
        rw [← zpow_natCast, mul_assoc, ← zpow_add₀ (by norm_num)]
        congr 2
        omega
    _ ≤ value * 10 ^ (e - length) := mul_le_mul_of_nonneg_right cast (Number.ten_zpow_pos _).le

/-- A numeral with few whole digits is read as a number unless it stands for one that is too large,
which takes a positive exponent. -/
theorem isSome_float? {n : Numeral} (short : valueOf n.whole ≤ maxWord)
    (within : ∀ digits, n.exponent = some (false, digits) → valueOf digits < 0x80000000 ∧
      (valueFrom (valueOf n.whole) (n.fraction.getD []) : ℚ) *
        10 ^ ((valueOf digits : Int) - (n.fraction.getD []).length) * growth ^ 2 < overflow) :
    n.float?.isSome = true := by
  have whole : leading 0 n.whole = (valueOf n.whole, n.whole.length) := leading_of_le short
  obtain ⟨word, few, front⟩ := leading_bounds short (n.fraction.getD [])
  unfold float?
  simp only [whole, Int.sub_self]
  generalize leading (valueOf n.whole) (n.fraction.getD []) = read at word few front ⊢
  obtain ⟨significand, places⟩ := read
  simp only at word few front ⊢
  -- Whatever the power, the number is scaled or the power is negative.
  have scaled : ∀ power : Int, (0 ≤ power → (significand : ℚ) * 10 ^ power * growth ^ 2 < overflow) →
      (((Binary.ofNat Format.double significand).bind fun x => scale x power).map fun x =>
        { x with negative := n.negative }).isSome = true := by
    intro power up
    obtain ⟨y, found, -⟩ := exists_ofNat word
    rw [Option.isSome_map, found, Option.bind_some]
    exact isSome_scale word found up
  cases exponent : n.exponent with
  | none => exact scaled _ fun _ => lt_overflow_of_nonpos word (by omega)
  | some e =>
    obtain ⟨minus, digits⟩ := e
    simp only
    split
    · split
      · rename_i huge large
        cases minus with
        | true => exact absurd large.2 (by decide)
        | false => exact absurd (within digits exponent).1 (Nat.not_lt.mpr huge)
      · rfl
    · apply scaled
      cases minus with
      | true => exact fun _ => lt_overflow_of_nonpos word (by simp)
      | false =>
        intro _
        refine lt_of_le_of_lt ?_ (within digits exponent).2
        refine mul_le_mul_of_nonneg_right ?_ (by positivity)
        rw [if_neg Bool.false_ne_true, Int.zero_sub, Int.add_comm, ← Int.sub_eq_add_neg]
        exact mul_zpow_le few front _

theorem lt_pow_valueFrom (acc : Nat) (run : ∀ c ∈ cs, c.isDigit = true) :
    valueFrom acc (digitValues cs) < (acc + 1) * 10 ^ cs.length := by
  induction cs generalizing acc with
  | nil => exact Nat.lt_of_lt_of_eq (Nat.lt_succ_self acc) (Nat.mul_one _).symm
  | cons c cs ih =>
    obtain ⟨-, small⟩ := Number.Decimal.eq_digit_of_value? (n := c.toNat - 0x30) (by
      rw [Number.Decimal.value?, if_pos (run c List.mem_cons_self)])
    refine Nat.lt_of_lt_of_le (ih (acc * 10 + (c.toNat - 0x30)) fun d hd =>
      run d (List.mem_cons_of_mem c hd)) ?_
    rw [List.length_cons, Nat.pow_succ', ← Nat.mul_assoc]
    exact Nat.mul_le_mul_right _ (by omega)

/-! ### The layouts of a decimal -/

theorem isDigit_of_mem_zeros {n : Nat} : ∀ c ∈ List.replicate n '0', c.isDigit = true := by
  intro c hc
  rw [List.eq_of_mem_replicate hc]
  decide

theorem areParts_point {fraction : List Char} (run : IsRun whole)
    (plain : whole.length = 1 ∨ whole.head? ≠ some '0') (fractional : IsRun fraction) :
    AreParts whole (some fraction) none :=
  ⟨run, plain, fun _ hf => Option.mem_some_iff.mp hf ▸ fractional,
    fun _ he => (Option.not_mem_none _ he).elim⟩

/-- The text of a decimal as parts. Few digits are whole, no text is that of an integer, and an
exponent upwards comes with all digits and the place of the first. -/
structure IsLayout (d : Digits) (whole : List Char) (fraction : Option (List Char))
    (exponent : Option (Bool × List Char)) : Prop where
  text : floatDigits d = written false whole fraction exponent
  parts : AreParts whole fraction exponent
  short : whole.length ≤ 16
  broken : fraction = none → exponent ≠ none
  upward : ∀ cs, exponent = some (false, cs) → valueOf (digitValues cs) = d.point - 1 ∧
    d.value ≠ 0 ∧
    valueFrom (valueOf (digitValues whole)) (digitValues (fraction.getD [])) = d.value ∧
    (fraction.getD []).length + 1 = (render d.value).length

variable {d : Digits} {fraction : Option (List Char)} {exponent : Option (Bool × List Char)}

theorem isLayout_point {fraction : List Char} (text : floatDigits d = whole ++ '.' :: fraction)
    (parts : AreParts whole (some fraction) none) (short : whole.length ≤ 16) :
    IsLayout d whole (some fraction) none where
  text := by simp [text, written, fractionText, exponentText]
  parts := parts
  short := short
  broken := nofun
  upward := nofun

/-- All digits are whole, with zeros behind them. -/
theorem isLayout_padded (zero : d.value = 0 → d.point = 1)
    (whole : ((render d.value).length : Int) ≤ d.point) (few : d.point ≤ 16) :
    IsLayout d (render d.value ++ List.replicate (d.point - (render d.value).length).toNat '0')
      (some ['0']) none := by
  have run := isRun_render d.value
  have filled : 0 < (render d.value).length := List.length_pos_iff.mpr run.1
  have text : floatDigits d = _ := if_pos ⟨whole, few⟩
  refine isLayout_point text
    (areParts_point ⟨List.append_ne_nil_of_left_ne_nil run.1 _, fun c hc => ?_⟩ ?_
      ⟨List.cons_ne_nil _ _, isDigit_of_mem_zeros (n := 1)⟩) ?_
  · exact (List.mem_append.mp hc).elim (run.2 c) (isDigit_of_mem_zeros c)
  · by_cases none_ : d.value = 0
    · have one := zero none_
      rw [List.length_append, List.length_replicate]
      omega
    · rw [List.head?_append_of_ne_nil _ run.1]
      exact Or.inr (Number.Decimal.head?_render none_)
  · rw [List.length_append, List.length_replicate]
    omega

/-- The point stands among the digits. -/
theorem isLayout_inside (some_ : d.value ≠ 0) (high : 0 < d.point)
    (inside : d.point < (render d.value).length) (few : d.point ≤ 16) :
    IsLayout d ((render d.value).take d.point.toNat) (some ((render d.value).drop d.point.toNat))
      none := by
  have run := isRun_render d.value
  have text : floatDigits d = _ :=
    (if_neg fun whole => absurd whole.1 inside.not_ge).trans (if_pos ⟨high, few⟩)
  refine isLayout_point text (areParts_point ⟨?_, fun c hc => run.2 c (List.mem_of_mem_take hc)⟩
    (Or.inr ?_) ⟨?_, fun c hc => run.2 c (List.mem_of_mem_drop hc)⟩) ?_
  · rw [← List.length_pos_iff, List.length_take]
    omega
  · rw [List.head?_take, if_neg (by omega)]
    exact Number.Decimal.head?_render some_
  · rw [← List.length_pos_iff, List.length_drop]
    omega
  · rw [List.length_take]
    omega

/-- The point stands before the digits, with zeros between. -/
theorem isLayout_ahead (least : -5 < d.point) (most : d.point ≤ 0) :
    IsLayout d ['0'] (some (List.replicate (-d.point).toNat '0' ++ render d.value)) none := by
  have run := isRun_render d.value
  have filled : 0 < (render d.value).length := List.length_pos_iff.mpr run.1
  have text : floatDigits d = _ :=
    ((if_neg fun whole => by omega).trans (if_neg fun inside => by omega)).trans
      (if_pos ⟨least, most⟩)
  refine isLayout_point text (areParts_point ⟨List.cons_ne_nil _ _, isDigit_of_mem_zeros (n := 1)⟩
    (Or.inl rfl) ⟨List.append_ne_nil_of_right_ne_nil _ run.1, fun c hc => ?_⟩) (by decide)
  exact (List.mem_append.mp hc).elim (isDigit_of_mem_zeros c) (run.2 c)

/-- One digit is whole, and an exponent tells its place. -/
theorem isLayout_far (zero : d.value = 0 → d.point = 1) (far : 16 < d.point ∨ d.point ≤ -5)
    {c : Char} (shape : render d.value = c :: rest) :
    IsLayout d [c] (if rest = [] then none else some rest)
      (some (decide (d.point - 1 < 0), render (d.point - 1).natAbs)) := by
  have run := isRun_render d.value
  have own := valueOf_render d.value
  have text : floatDigits d = _ :=
    ((if_neg fun whole => by omega).trans (if_neg fun inside => by omega)).trans
      (if_neg fun ahead => by omega)
  rw [shape] at run own
  simp only [shape] at text
  have fraction : (if rest = [] then none else some rest).getD [] = rest := by
    split
    · rename_i nothing
      exact nothing.symm
    · rfl
  refine ⟨?_, ⟨⟨List.cons_ne_nil _ _, ?_⟩, Or.inl rfl, ?_, ?_⟩, by simp, fun _ => Option.some_ne_none _,
    ?_⟩
  · rw [text]
    cases rest with
    | nil => simp [written, fractionText, exponentText]
    | cons d rest => simp [written, fractionText, exponentText]
  · exact fun d hd => run.2 d (List.mem_singleton.mp hd ▸ List.mem_cons_self)
  · intro f hf
    split at hf
    · cases hf
    · rename_i more
      obtain rfl := Option.some.inj hf
      exact ⟨more, fun d hd => run.2 d (List.mem_cons_of_mem c hd)⟩
  · intro e he
    obtain rfl := Option.some.inj he
    exact isRun_render _
  · intro digits same
    obtain ⟨sign, rfl⟩ := Prod.mk.inj (Option.some.inj same)
    have upwards := of_decide_eq_false sign
    rw [valueOf_render, fraction, shape]
    exact ⟨by omega, fun none_ => by have one := zero none_; omega, own, rfl⟩

theorem exists_layout (zero : d.value = 0 → d.point = 1) :
    ∃ whole fraction exponent, IsLayout d whole fraction exponent := by
  by_cases far : 16 < d.point ∨ d.point ≤ -5
  · obtain ⟨c, rest, shape, -⟩ := head_of_isRun (isRun_render d.value)
    exact ⟨_, _, _, isLayout_far zero far shape⟩
  · obtain ⟨few, least⟩ := not_or.mp far
    by_cases low : d.point ≤ 0
    · exact ⟨_, _, _, isLayout_ahead (not_le.mp least) low⟩
    · by_cases whole : ((render d.value).length : Int) ≤ d.point
      · exact ⟨_, _, _, isLayout_padded zero whole (not_lt.mp few)⟩
      · have some_ : d.value ≠ 0 := by
          intro none_
          rw [none_, zero none_, Number.Decimal.render_of_lt (by decide)] at whole
          exact whole le_rfl
        exact ⟨_, _, _, isLayout_inside some_ (not_le.mp low) (not_le.mp whole) (not_lt.mp few)⟩

/-! ### Reading a layout -/

theorem exists_number?_written (parts : AreParts whole fraction exponent) (short : whole.length ≤ 16)
    (broken : fraction = none → exponent ≠ none)
    (within : ∀ cs, exponent = some (false, cs) → valueOf (digitValues cs) < 0x80000000 ∧
      (valueFrom (valueOf (digitValues whole)) (digitValues (fraction.getD [])) : ℚ) *
        10 ^ ((valueOf (digitValues cs) : Int) - (fraction.getD []).length) * growth ^ 2 < overflow) :
    ∃ y, number? (written negative whole fraction exponent) = some (.float y) := by
  rw [number?, parts?_written parts, Option.bind_some]
  have few : valueOf (digitValues whole) ≤ maxWord := by
    have bound := lt_pow_valueFrom 0 parts.run.2
    have power : 10 ^ whole.length ≤ 10 ^ 16 := Nat.pow_le_pow_right (by decide) short
    have word : 10 ^ 16 ≤ maxWord := by decide
    rw [Nat.zero_add, Nat.one_mul] at bound
    exact (bound.trans_le (power.trans word)).le
  have same : (fraction.map digitValues).getD [] = digitValues (fraction.getD []) := by
    cases fraction <;> rfl
  have read : Option.isSome (float? ⟨negative, digitValues whole, fraction.map digitValues,
      exponent.map fun e => (e.1, digitValues e.2)⟩) = true := by
    apply isSome_float? few
    intro digits found
    obtain ⟨⟨minus, cs⟩, stands, own⟩ := Option.map_eq_some_iff.mp found
    obtain ⟨rfl, rfl⟩ := Prod.mk.inj own
    rw [same, length_digitValues]
    exact within cs stands
  obtain ⟨y, found⟩ := Option.isSome_iff_exists.mp read
  have other : ¬ ((fraction.map digitValues).isNone = true ∧
      (exponent.map fun e => (e.1, digitValues e.2)).isNone = true) := by
    rw [Option.isNone_map, Option.isNone_map, Option.isNone_iff_eq_none, Option.isNone_iff_eq_none]
    exact fun nothing => broken nothing.1 nothing.2
  rw [value?, if_neg other, found]
  exact ⟨y, rfl⟩

theorem magnitude_lt_overflow {x : Binary} (small : x.significand < 2 ^ 53) (low : x.exponent ≤ 971)
    (top : ¬ (x.exponent = 971 ∧ 2 ^ 53 - 6 < x.significand)) :
    ((x.significand : ℚ) + 1 / 2) * 2 ^ x.exponent * growth ^ 2 < overflow := by
  have place : (0 : ℚ) < 2 ^ 971 := by positivity
  have square : (0 : ℚ) < growth ^ 2 := by norm_num [growth]
  by_cases high : x.exponent = 971
  · have less : x.significand ≤ 2 ^ 53 - 6 := not_lt.mp fun above => top ⟨high, above⟩
    have cast : (x.significand : ℚ) ≤ 2 ^ 53 - 6 := by
      have bound : ((x.significand : Nat) : ℚ) ≤ (2 ^ 53 - 6 : Nat) := Nat.cast_le.mpr less
      norm_num at bound ⊢
      exact bound
    have power : (2 : ℚ) ^ (971 : Int) = 2 ^ 971 := zpow_ofNat 2 971
    rw [high, power, mul_right_comm]
    refine mul_lt_mul_of_pos_right ?_ place
    calc ((x.significand : ℚ) + 1 / 2) * growth ^ 2 ≤ (2 ^ 53 - 6 + 1 / 2) * growth ^ 2 :=
          mul_le_mul_of_nonneg_right (by linarith) square.le
      _ < 2 ^ 53 - 1 / 2 := by norm_num [growth]
  · have power : (2 : ℚ) ^ x.exponent ≤ 2 ^ (970 : Int) := zpow_le_zpow_right₀ one_le_two (by omega)
    have half : (2 : ℚ) ^ (970 : Int) = 2 ^ 971 / 2 := by
      rw [show (970 : Int) = 971 - 1 by rfl, zpow_sub_one₀ two_ne_zero, div_eq_mul_inv, zpow_ofNat]
    have cast : (x.significand : ℚ) + 1 / 2 ≤ 2 ^ 53 := by
      have bound : ((x.significand + 1 : Nat) : ℚ) ≤ (2 ^ 53 : Nat) := Nat.cast_le.mpr small
      norm_num at bound ⊢
      linarith
    have halved : ∀ p g : ℚ, 2 ^ 53 * (p / 2) * g = 2 ^ 52 * g * p := fun p g => by ring
    rw [half] at power
    calc ((x.significand : ℚ) + 1 / 2) * 2 ^ x.exponent * growth ^ 2
        ≤ 2 ^ 53 * (2 ^ 971 / 2) * growth ^ 2 := by gcongr
      _ = 2 ^ 52 * growth ^ 2 * 2 ^ 971 := halved _ _
      _ < (2 ^ 53 - 1 / 2) * 2 ^ 971 := mul_lt_mul_of_pos_right (by norm_num [growth]) place
      _ = overflow := rfl

def isFloat : Option Json → Bool
  | some (.float _) => true
  | _ => false

theorem exists_of_isFloat {n : Option Json} (h : isFloat n = true) : ∃ y, n = some (.float y) := by
  unfold isFloat at h
  split at h
  · rename_i y
    exact ⟨y, rfl⟩
  · cases h

/-- The numbers just below the largest power of two, whose decimals are rounded up most. -/
theorem exists_number?_top (negative : Bool) {k : Nat} (few : k < 5) :
    ∃ y, number? (floatText ⟨negative, 2 ^ 53 - 1 - k, 971⟩) = some (.float y) := by
  have all : ∀ negative, ∀ k < 5,
      isFloat (number? (floatText ⟨negative, 2 ^ 53 - 1 - k, 971⟩)) = true := by
    decide +kernel
  exact exists_of_isFloat (all negative k few)

theorem pow_point_le_magnitude (some_ : d.value ≠ 0) : (10 : ℚ) ^ (d.point - 1) ≤ d.magnitude := by
  have front : ((10 ^ ((render d.value).length - 1) : Nat) : ℚ) ≤ d.value :=
    Nat.cast_le.mpr (Number.Decimal.pow_length_render_le some_)
  have filled := List.length_pos_iff.mpr (isRun_render d.value).1
  rw [Nat.cast_pow, ← zpow_natCast] at front
  calc (10 : ℚ) ^ (d.point - 1)
      = 10 ^ (((render d.value).length - 1 : Nat) : Int) * 10 ^ (d.point - (render d.value).length) := by
        rw [← zpow_add₀ (by norm_num)]
        congr 1
        omega
    _ ≤ d.magnitude := mul_le_mul_of_nonneg_right front (Number.ten_zpow_pos _).le

theorem point_le_of_lt_overflow (some_ : d.value ≠ 0) (small : d.magnitude * growth ^ 2 < overflow) :
    d.point ≤ 309 := by
  have least := pow_point_le_magnitude some_
  have square : (1 : ℚ) ≤ growth ^ 2 := by norm_num [growth]
  have grown : d.magnitude ≤ d.magnitude * growth ^ 2 :=
    le_mul_of_one_le_right ((Number.ten_zpow_pos _).le.trans least) square
  have less : (10 : ℚ) ^ (d.point - 1) < 10 ^ (309 : Int) := by
    rw [zpow_ofNat]
    exact (least.trans grown).trans_lt (small.trans overflow_lt_pow)
  have few := (zpow_lt_zpow_iff_right₀ (by norm_num)).mp less
  omega

theorem floatText_eq {x : Binary} (nonzero : x.significand ≠ 0)
    (layout : IsLayout (Number.shortest Format.double x) whole fraction exponent) :
    floatText x = written x.negative whole fraction exponent := by
  rw [floatText, if_neg nonzero, layout.text, written, written]
  rfl

theorem exists_number?_floatText {x : Binary} (small : x.significand < 2 ^ 53) (low : x.exponent ≤ 971) :
    ∃ y, number? (floatText x) = some (.float y) := by
  by_cases zero : x.significand = 0
  · have all : ∀ negative : Bool,
        isFloat (number? ((if negative then ['-'] else []) ++ ['0', '.', '0'])) = true := by
      decide
    rw [floatText, if_pos zero]
    exact exists_of_isFloat (all x.negative)
  · by_cases top : x.exponent = 971 ∧ 2 ^ 53 - 6 < x.significand
    · obtain ⟨negative, significand, exponent⟩ := x
      obtain ⟨rfl, large⟩ := top
      simp only at small large
      have near := exists_number?_top negative (show 2 ^ 53 - 1 - significand < 5 by omega)
      rwa [show 2 ^ 53 - 1 - (2 ^ 53 - 1 - significand) = significand by omega] at near
    · obtain ⟨close, point⟩ := Number.shortest_bounds Format.double zero
      obtain ⟨whole, fraction, exponent, layout⟩ := exists_layout point
      rw [floatText_eq zero layout]
      apply exists_number?_written layout.parts layout.short layout.broken
      intro cs upward
      have bound : (Number.shortest Format.double x).magnitude * growth ^ 2 < overflow :=
        lt_of_le_of_lt (mul_le_mul_of_nonneg_right close (by positivity))
          (magnitude_lt_overflow small low top)
      obtain ⟨place, some_, value, length⟩ := layout.upward cs upward
      have few := point_le_of_lt_overflow some_ bound
      refine ⟨by omega, ?_⟩
      rw [value, place, Int.sub_sub, Int.add_comm 1, ← Nat.cast_succ, Nat.succ_eq_add_one, length]
      exact bound

/-! ### Shape -/

def IsNumeral (cs : List Char) : Prop :=
  ∃ negative whole fraction exponent, cs = written negative whole fraction exponent ∧ IsRun whole ∧
    (∀ cs ∈ fraction, IsRun cs) ∧ ∀ e ∈ exponent, IsRun e.2

theorem isNumeral_intText (i : Int) : IsNumeral (intText i) := by
  obtain ⟨run, -, fractional, exponential⟩ := areParts_render i.natAbs
  exact ⟨_, _, _, _, intText_eq i, run, fractional, exponential⟩

theorem isNumeral_floatText (x : Binary) : IsNumeral (floatText x) := by
  by_cases zero : x.significand = 0
  · have run : IsRun ['0'] := ⟨List.cons_ne_nil _ _, List.forall_mem_singleton.mpr rfl⟩
    refine ⟨x.negative, ['0'], some ['0'], none, ?_, run, ?_, fun _ he => by cases he⟩
    · rw [floatText, if_pos zero]
      rfl
    · intro cs hc
      exact Option.some.inj hc ▸ run
  · obtain ⟨-, point⟩ := Number.shortest_bounds Format.double zero
    obtain ⟨whole, fraction, exponent, layout⟩ := exists_layout point
    obtain ⟨run, -, fractional, exponential⟩ := layout.parts
    exact ⟨x.negative, _, _, _, floatText_eq zero layout, run, fractional, exponential⟩

end FacetSearch.Json
