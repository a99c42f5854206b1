/-!
# Binary floating-point numbers

A number of a format is a sign, a significand of limited length and a power of two. All arithmetic
goes through `nearest`, which rounds an exact quotient to the format: to the nearest number, and of
two equally near to the one with the even significand.
-/

namespace FacetSearch.Number

/-- How many bits a significand has and which powers of two it may be scaled by. -/
structure Format where
  precision : Nat
  leastExponent : Int
  greatestExponent : Int
  deriving DecidableEq, Repr

def Format.double : Format := ⟨53, -1074, 971⟩

def Format.single : Format := ⟨24, -149, 104⟩

/-- The number `significand · 2 ^ exponent` with a sign; zero keeps its sign. -/
structure Binary where
  negative : Bool := false
  significand : Nat
  exponent : Int
  deriving DecidableEq, Repr

namespace Binary

def quotient (x : Binary) : Nat × Nat :=
  (x.significand * Nat.pow 2 x.exponent.toNat, Nat.pow 2 (-x.exponent).toNat)

def scaled (num den : Nat) (exponent : Int) : Nat × Nat :=
  (num * Nat.pow 2 (-exponent).toNat, den * Nat.pow 2 exponent.toNat)

/-- The quotient rounded to a natural number, a half to the even neighbour. -/
def roundHalfEven (num den : Nat) : Nat :=
  let q := num / den
  let twice := 2 * (num % den)
  if twice < den ∨ (twice = den ∧ q % 2 = 0) then q else q + 1

/-- The exponent that gives `num / den` a significand of full length, if the format allows it. -/
def exponentFor (format : Format) (num den : Nat) : Int :=
  let guess : Int := (Nat.log2 num : Int) - Nat.log2 den - format.precision + 1
  let (n, d) := scaled num den guess
  let fitted := if n < d * Nat.pow 2 (format.precision - 1) then guess - 1 else guess
  max fitted format.leastExponent

/-- The number of the format nearest to `num / den`; nothing if that is beyond the largest. -/
def nearest (format : Format) (negative : Bool) (num den : Nat) : Option Binary :=
  if num = 0 then some ⟨negative, 0, format.leastExponent⟩
  else
    let exponent := exponentFor format num den
    let (n, d) := scaled num den exponent
    let m := roundHalfEven n d
    let x : Binary :=
      if m = Nat.pow 2 format.precision then ⟨negative, Nat.pow 2 (format.precision - 1), exponent + 1⟩
      else ⟨negative, m, exponent⟩
    if format.greatestExponent < x.exponent then none else some x

def ofNat (format : Format) (n : Nat) : Option Binary :=
  nearest format false n 1

def convert (format : Format) (x : Binary) : Option Binary :=
  nearest format x.negative x.quotient.1 x.quotient.2

def mul (format : Format) (x y : Binary) : Option Binary :=
  nearest format (x.negative != y.negative)
    (x.quotient.1 * y.quotient.1) (x.quotient.2 * y.quotient.2)

def div (format : Format) (x y : Binary) : Option Binary :=
  nearest format (x.negative != y.negative)
    (x.quotient.1 * y.quotient.2) (x.quotient.2 * y.quotient.1)

def absLe (x y : Binary) : Bool :=
  x.quotient.1 * y.quotient.2 ≤ y.quotient.1 * x.quotient.2

/-- The total order in which a negative zero comes just below zero. -/
def le (x y : Binary) : Bool :=
  match x.negative, y.negative with
  | true, false => true
  | false, true => false
  | false, false => absLe x y
  | true, true => absLe y x

end Binary
end FacetSearch.Number
