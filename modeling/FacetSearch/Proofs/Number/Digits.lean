import FacetSearch.Number.Decimal
import Mathlib.Algebra.Group.Nat.Defs
import Mathlib.Data.Nat.Init

/-!
# Digits of a number

Numbers of a fixed width: their digits one by one, and the number that a run of digits spells.
-/

namespace FacetSearch.Number.Decimal

theorem digit_mod (n : Nat) : digit (n % 10) = digit n := by
  rw [digit, digit, Nat.mod_mod]

theorem eq_digit_of_value? {c : Char} {n : Nat} (h : value? c = some n) : c = digit n ∧ n < 10 := by
  unfold value? at h
  split at h
  · rename_i isDigit
    obtain rfl := Option.some.inj h
    simp only [Char.isDigit, Bool.and_eq_true, decide_eq_true_eq] at isDigit
    have low : 0x30 ≤ c.toNat := UInt32.le_iff_toNat_le.mp isDigit.1
    have high : c.toNat ≤ 0x39 := UInt32.le_iff_toNat_le.mp isDigit.2
    refine ⟨?_, by omega⟩
    rw [digit, show 0x30 + (c.toNat - 0x30) % 10 = c.toNat by omega, Char.ofNat_toNat]
  · cases h

theorem renderOnto_eq_append (n : Nat) (tail : List Char) :
    renderOnto n tail = renderOnto n [] ++ tail := by
  induction n using Nat.strongRecOn generalizing tail with
  | _ n ih =>
    rw [renderOnto, renderOnto.eq_1 n []]
    split
    · rfl
    · rw [ih (n / 10) (by omega), ih (n / 10) (by omega) [digit n], List.append_assoc]
      rfl

theorem render_of_lt {n : Nat} (h : n < 10) : render n = [digit n] := by
  rw [render, renderOnto, if_pos h]

theorem render_of_le {n : Nat} (h : 10 ≤ n) : render n = render (n / 10) ++ [digit n] := by
  rw [render, renderOnto, if_neg (Nat.not_lt.mpr h), renderOnto_eq_append]
  rfl

theorem head?_render {n : Nat} (some_ : n ≠ 0) : (render n).head? ≠ some '0' := by
  induction n using Nat.strongRecOn with
  | _ n ih =>
    by_cases small : n < 10
    · have digits : ∀ d < 10, d ≠ 0 → digit d ≠ '0' := by decide
      rw [render_of_lt small, List.head?_cons]
      exact mt Option.some.inj (digits n small some_)
    · have front := ih (n / 10) (by omega) (by omega)
      obtain ⟨c, cs, same⟩ := List.exists_cons_of_ne_nil (renderOnto_ne_nil (n / 10) [])
      rw [show render (n / 10) = c :: cs from same] at front
      rwa [render_of_le (Nat.not_lt.mp small), show render (n / 10) = c :: cs from same]

theorem lt_pow_length_render (n : Nat) : n < 10 ^ (render n).length := by
  induction n using Nat.strongRecOn with
  | _ n ih =>
    by_cases small : n < 10
    · rwa [render_of_lt small, List.length_singleton, Nat.pow_one]
    · have rest := ih (n / 10) (by omega)
      rw [render_of_le (Nat.not_lt.mp small), List.length_append, List.length_singleton, Nat.pow_succ]
      omega

theorem pow_length_render_le {n : Nat} (some_ : n ≠ 0) : 10 ^ ((render n).length - 1) ≤ n := by
  induction n using Nat.strongRecOn with
  | _ n ih =>
    by_cases small : n < 10
    · rw [render_of_lt small, List.length_singleton, Nat.sub_self, Nat.pow_zero]
      exact Nat.pos_of_ne_zero some_
    · have rest := ih (n / 10) (by omega) (by omega)
      have filled : (render (n / 10)).length ≠ 0 := mt List.length_eq_zero_iff.mp (renderOnto_ne_nil _ _)
      rw [render_of_le (Nat.not_lt.mp small), List.length_append, List.length_singleton,
        Nat.add_sub_cancel, ← Nat.sub_add_cancel (Nat.one_le_iff_ne_zero.mpr filled), Nat.pow_succ]
      omega

theorem padded_one {n : Nat} (h : n < 10) : padded 1 n = [digit n] := by
  rw [padded, render_of_lt h]
  rfl

theorem padded_succ {width : Nat} (wide : 0 < width) (n : Nat) :
    padded (width + 1) n = padded width (n / 10) ++ [digit n] := by
  by_cases small : n < 10
  · have none : n / 10 = 0 := by omega
    obtain ⟨more, rfl⟩ : ∃ more, width = more + 1 := ⟨width - 1, by omega⟩
    rw [none, padded, padded, render_of_lt small, render_of_lt (by omega)]
    simp [digit, List.replicate_succ']
  · rw [padded, padded, render_of_le (Nat.not_lt.mp small)]
    simp

theorem padded_two {n : Nat} (h : n < 100) : padded 2 n = [digit (n / 10), digit n] := by
  rw [padded_succ Nat.one_pos, padded_one (by omega)]
  rfl

theorem padded_four {n : Nat} (h : n < 10000) :
    padded 4 n = [digit (n / 1000), digit (n / 100), digit (n / 10), digit n] := by
  rw [padded_succ (by omega), padded_succ (by omega), padded_two (by omega)]
  simp [Nat.div_div_eq_div_mul]

theorem padded_two_of_readFrom {a b : Char} {n : Nat} (h : readFrom 0 [a, b] = some n) :
    n < 100 ∧ padded 2 n = [a, b] := by
  simp only [readFrom, Option.bind_eq_some_iff, Option.some.injEq] at h
  obtain ⟨x, hx, y, hy, rfl⟩ := h
  obtain ⟨rfl, small⟩ := eq_digit_of_value? hx
  obtain ⟨rfl, small'⟩ := eq_digit_of_value? hy
  refine ⟨by omega, ?_⟩
  rw [padded_two (by omega), ← digit_mod (_ / 10), ← digit_mod (_ + y)]
  congr 2
  · omega
  · congr 1
    omega

theorem padded_four_of_readFrom {a b c d : Char} {n : Nat}
    (h : readFrom 0 [a, b, c, d] = some n) : n < 10000 ∧ padded 4 n = [a, b, c, d] := by
  simp only [readFrom, Option.bind_eq_some_iff, Option.some.injEq] at h
  obtain ⟨w, hw, x, hx, y, hy, z, hz, rfl⟩ := h
  obtain ⟨rfl, _⟩ := eq_digit_of_value? hw
  obtain ⟨rfl, _⟩ := eq_digit_of_value? hx
  obtain ⟨rfl, _⟩ := eq_digit_of_value? hy
  obtain ⟨rfl, _⟩ := eq_digit_of_value? hz
  have digits : ∀ m d, m % 10 = d → digit m = digit d := by
    intro m d same
    rw [← same, digit_mod]
  generalize whole : (((0 * 10 + w) * 10 + x) * 10 + y) * 10 + z = n
  refine ⟨by omega, ?_⟩
  rw [padded_four (by omega), digits (n / 1000) w (by omega), digits (n / 100) x (by omega),
    digits (n / 10) y (by omega), digits n z (by omega)]

theorem read?_of_digits {limit : Nat} {cs : List Char} (some : cs ≠ [])
    (h : ∀ c ∈ cs, c.isDigit = true) : read? limit cs = (readFrom 0 cs).filter (· ≤ limit) := by
  cases cs with
  | nil => exact absurd rfl some
  | cons c rest =>
    unfold read?
    split
    · rename_i same
      obtain ⟨rfl, rfl⟩ := List.cons.inj same
      exact absurd (h '+' List.mem_cons_self) (by decide)
    · rfl

theorem le_of_read? {limit n : Nat} {cs : List Char} (h : read? limit cs = some n) : n ≤ limit := by
  unfold read? at h
  simpa using (Option.filter_eq_some_iff.mp h).2

theorem readFrom_padded (width n : Nat) : readFrom 0 (padded width n) = some n := by
  have zeros : ∀ k, readFrom 0 (List.replicate k '0' ++ render n) = readFrom 0 (render n) := by
    intro k
    induction k with
    | zero => rfl
    | succ k ih => exact ih
  have digits := digits?_render n
  unfold digits? at digits
  split at digits
  · cases digits
  · rw [padded, zeros, digits]

theorem padded_ne_nil (width n : Nat) : padded width n ≠ [] :=
  List.append_ne_nil_of_right_ne_nil _ (renderOnto_ne_nil n [])

theorem digits?_padded (width n : Nat) : digits? (padded width n) = some n := by
  unfold digits?
  split
  · exact absurd ‹_› (padded_ne_nil width n)
  · exact readFrom_padded width n

theorem padded_inj {width m n : Nat} : padded width m = padded width n ↔ m = n := by
  refine ⟨fun same => ?_, congrArg (padded width)⟩
  have read := readFrom_padded width m
  rw [same, readFrom_padded] at read
  exact (Option.some.inj read).symm

theorem isDigit_of_mem_padded {width n : Nat} : ∀ c ∈ padded width n, c.isDigit = true := by
  intro c hc
  rcases List.mem_append.mp hc with hc | hc
  · rw [List.eq_of_mem_replicate hc]
    decide
  · exact isDigit_of_mem_render hc

theorem read?_padded {limit width n : Nat} (h : n ≤ limit) : read? limit (padded width n) = some n := by
  rw [read?_of_digits (padded_ne_nil width n) isDigit_of_mem_padded, readFrom_padded,
    Option.filter_some, if_pos (decide_eq_true h)]

/-! ### The order of texts of one width -/

theorem length_padded {width n : Nat} (wide : 0 < width) (h : n < 10 ^ width) :
    (padded width n).length = width := by
  induction width, wide using Nat.le_induction generalizing n with
  | base =>
    rw [padded_one h]
    rfl
  | succ width wide ih =>
    rw [padded_succ wide, List.length_append, ih (by omega), List.length_singleton]

theorem digit_lt_digit_iff {m n : Nat} : digit m < digit n ↔ m % 10 < n % 10 := by
  have each : ∀ a < 10, ∀ b < 10, digit a < digit b ↔ a < b := by decide
  rw [← digit_mod m, ← digit_mod n]
  exact each _ (Nat.mod_lt m (by decide)) _ (Nat.mod_lt n (by decide))

theorem append_lt_append_iff {a b x y : List Char} (same : a.length = b.length) :
    a ++ x < b ++ y ↔ a < b ∨ a = b ∧ x < y := by
  induction a generalizing b with
  | nil =>
    obtain rfl := List.length_eq_zero_iff.mp same.symm
    simp
  | cons c a ih =>
    cases b with
    | nil => cases same
    | cons d b =>
      simp only [List.cons_append, List.cons_lt_cons_iff, ih (Nat.succ.inj same), List.cons.injEq,
        and_or_left, or_assoc, and_assoc]

theorem padded_lt_padded_iff {width m n : Nat} (wide : 0 < width) (hm : m < 10 ^ width)
    (hn : n < 10 ^ width) : padded width m < padded width n ↔ m < n := by
  induction width, wide using Nat.le_induction generalizing m n with
  | base =>
    rw [padded_one hm, padded_one hn, List.cons_lt_cons_iff, digit_lt_digit_iff]
    simp only [List.not_lt_nil, and_false, or_false]
    omega
  | succ width wide ih =>
    have hm' : m / 10 < 10 ^ width := by omega
    have hn' : n / 10 < 10 ^ width := by omega
    rw [padded_succ wide, padded_succ wide,
      append_lt_append_iff ((length_padded wide hm').trans (length_padded wide hn').symm), ih hm' hn',
      padded_inj, List.cons_lt_cons_iff, digit_lt_digit_iff]
    simp only [List.not_lt_nil, and_false, or_false]
    omega

end FacetSearch.Number.Decimal
