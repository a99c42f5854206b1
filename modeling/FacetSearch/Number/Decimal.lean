/-!
# Natural numbers in decimal

`render` writes a number without leading zeros and `read?` reads one: an optional plus sign, then
digits of ASCII, with a value up to a limit. What was written is read back (`read?_render`).
-/

namespace FacetSearch.Number

/-- The largest number of 64 bits; sums and products stop there. -/
def maxWord : Nat := 0xFFFFFFFFFFFFFFFF

def addWord (a b : Nat) : Nat := min (a + b) maxWord

def mulWord (a b : Nat) : Nat := min (a * b) maxWord

namespace Decimal

def digit (n : Nat) : Char := Char.ofNat (0x30 + n % 10)

def value? (c : Char) : Option Nat :=
  if c.isDigit then some (c.toNat - 0x30) else none

/-- The digits of `n`, put in front of `tail`. -/
def renderOnto (n : Nat) (tail : List Char) : List Char :=
  if n < 10 then digit n :: tail else renderOnto (n / 10) (digit n :: tail)
termination_by n

def render (n : Nat) : List Char := renderOnto n []

/-- The value of the digits when `acc` stands before them. -/
def readFrom (acc : Nat) : List Char → Option Nat
  | [] => some acc
  | c :: rest => (value? c).bind fun d => readFrom (acc * 10 + d) rest

def digits? : List Char → Option Nat
  | [] => none
  | cs => readFrom 0 cs

/-- The number, if it is written as an optional plus sign and digits and is at most `limit`. -/
def read? (limit : Nat) (cs : List Char) : Option Nat :=
  let run := match cs with
    | '+' :: rest => digits? rest
    | _ => digits? cs
  run.filter (· ≤ limit)

/-- The number with zeros in front up to `width` characters. -/
def padded (width n : Nat) : List Char :=
  let cs := render n
  List.replicate (width - cs.length) '0' ++ cs

/-! ### Reading what was written -/

theorem value?_digit (n : Nat) : value? (digit n) = some (n % 10) := by
  have h : ∀ d < 10, value? (Char.ofNat (0x30 + d)) = some d := by decide
  exact h (n % 10) (Nat.mod_lt _ (by omega))

theorem readFrom_renderOnto (n acc : Nat) (tail : List Char) :
    ∃ scale, readFrom acc (renderOnto n tail) = readFrom (acc * scale + n) tail ∧
      (acc = 0 ∨ 10 ≤ scale) := by
  induction n using Nat.strongRecOn generalizing tail with
  | _ n ih =>
    unfold renderOnto
    split
    · rename_i h
      refine ⟨10, ?_, Or.inr (Nat.le_refl _)⟩
      simp [readFrom, value?_digit, Nat.mod_eq_of_lt h]
    · rename_i h
      obtain ⟨scale, hs, hscale⟩ := ih (n / 10) (by omega) (digit n :: tail)
      refine ⟨scale * 10, ?_, by omega⟩
      rw [hs]
      simp only [readFrom, value?_digit, Option.bind_some]
      congr 1
      rw [Nat.add_mul, Nat.mul_assoc]
      omega

theorem renderOnto_ne_nil (n : Nat) (tail : List Char) : renderOnto n tail ≠ [] := by
  induction n using Nat.strongRecOn generalizing tail with
  | _ n ih =>
    unfold renderOnto
    split
    · simp
    · exact ih _ (by omega) _

theorem digits?_render (n : Nat) : digits? (render n) = some n := by
  obtain ⟨scale, hs, _⟩ := readFrom_renderOnto n 0 []
  unfold digits?
  split
  · rename_i h
    exact absurd h (renderOnto_ne_nil n [])
  · simpa [render, readFrom] using hs

theorem isDigit_digit (n : Nat) : (digit n).isDigit = true := by
  have h : ∀ d < 10, (Char.ofNat (0x30 + d)).isDigit = true := by decide
  exact h (n % 10) (Nat.mod_lt _ (by omega))

theorem isDigit_of_mem_renderOnto {n : Nat} {tail : List Char}
    (ht : ∀ c ∈ tail, c.isDigit = true) : ∀ c ∈ renderOnto n tail, c.isDigit = true := by
  induction n using Nat.strongRecOn generalizing tail with
  | _ n ih =>
    unfold renderOnto
    split
    · simpa [isDigit_digit] using ht
    · exact ih _ (by omega) (by simpa [isDigit_digit] using ht)

theorem isDigit_of_mem_render {n : Nat} {c : Char} (h : c ∈ render n) : c.isDigit = true :=
  isDigit_of_mem_renderOnto (by simp) c h

theorem read?_render {limit n : Nat} (h : n ≤ limit) : read? limit (render n) = some n := by
  have hd := digits?_render n
  unfold read?
  split
  · rename_i rest hr
    have := isDigit_of_mem_render (n := n) (c := '+') (by simp [hr])
    exact absurd this (by decide)
  · simp [hd, h]

end Decimal
end FacetSearch.Number
