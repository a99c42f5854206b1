import FacetSearch.Number.Binary
import FacetSearch.Number.Decimal

/-!
# The shortest decimal that reads back

Among the decimals that lie nearer to a binary number than to any other of its format, `shortest`
takes one with the fewest digits, and of those the nearest; a tie goes to the even digit.
-/

namespace FacetSearch.Number

/-- The decimal `0.d₁d₂… · 10 ^ point`, its digits given as one number. -/
structure Digits where
  value : Nat
  point : Int
  deriving DecidableEq, Repr

namespace Shortest

def digitCount (n : Nat) : Nat :=
  (Decimal.render n).length

/-- The power of ten just above `num / den`. -/
def pointOf (num den : Nat) : Int :=
  let guess : Int := (digitCount num : Int) - digitCount den
  if den * Nat.pow 10 guess.toNat ≤ num * Nat.pow 10 (-guess).toNat then guess + 1 else guess

/-- The numbers that read back as a given one: its distance to either end, in quarters of the last
place, and whether the ends belong to it. -/
structure Reach where
  below : Nat
  above : Nat
  closed : Bool

/-- Half a place to either side; a quarter below a power of two, where places get smaller. -/
def reach (format : Format) (x : Binary) : Reach where
  below := if x.significand = Nat.pow 2 (format.precision - 1) ∧ format.leastExponent < x.exponent
    then 1 else 2
  above := 2
  closed := x.significand % 2 = 0

/-- Whether `d · 10 ^ scale` lies within the reach of `x`, and its distance from `x`, in quarters
of the last place times the common denominator. -/
def distance? (r : Reach) (x : Binary) (d : Nat) (scale : Int) : Option Nat :=
  -- Both sides are put over the denominator of `10 ^ scale` and `2 ^ (exponent - 2)`.
  let unit := Nat.pow 2 (x.exponent - 2).toNat * Nat.pow 10 (-scale).toNat
  let there := d * Nat.pow 10 scale.toNat * Nat.pow 2 (2 - x.exponent).toNat
  let here := 4 * x.significand * unit
  let within (gap limit : Nat) : Option Nat :=
    if gap < limit ∨ (r.closed ∧ gap = limit) then some gap else none
  if there ≤ here then within (here - there) (r.below * unit)
  else within (there - here) (r.above * unit)

/-- The better of the two decimals with `count` digits next to `x`, if one reads back as `x`. -/
def onGrid? (format : Format) (x : Binary) (point : Int) (count : Nat) : Option Nat :=
  let scale := point - count
  let (num, den) := x.quotient
  let down := num * Nat.pow 10 (-scale).toNat / (den * Nat.pow 10 scale.toNat)
  let r := reach format x
  match distance? r x down scale, distance? r x (down + 1) scale with
  | some a, some b => some (if a < b ∨ (a = b ∧ down % 2 = 0) then down else down + 1)
  | some _, none => some down
  | none, some _ => some (down + 1)
  | none, none => none

/-- The first grid of `from`, `from + 1`, … digits that holds a decimal for `x`. -/
def search (format : Format) (x : Binary) (point : Int) (start : Nat) : Nat → Option (Nat × Nat)
  | 0 => none
  | more + 1 =>
    match onGrid? format x point start with
    | some d => some (d, start)
    | none => search format x point (start + 1) more

end Shortest

/-- The shortest decimal of a number other than zero. Seventeen digits always suffice. -/
def shortest (format : Format) (x : Binary) : Digits :=
  let (num, den) := x.quotient
  let point := Shortest.pointOf num den
  match Shortest.search format x point 1 17 with
  | some (d, count) =>
    if d = Nat.pow 10 count then ⟨1, point + 1⟩ else ⟨d, point⟩
  | none => ⟨num / den, Shortest.digitCount (num / den)⟩

/-- The decimal without exponent and without a point where it is whole. -/
def plainText (format : Format) (x : Binary) : List Char :=
  let sign := if x.negative then ['-'] else []
  if x.significand = 0 then sign ++ ['0']
  else
    let ⟨value, point⟩ := shortest format x
    let cs := Decimal.render value
    sign ++
      (if (cs.length : Int) ≤ point then cs ++ List.replicate (point - cs.length).toNat '0'
      else if 0 < point then cs.take point.toNat ++ '.' :: cs.drop point.toNat
      else '0' :: '.' :: List.replicate (-point).toNat '0' ++ cs)

end FacetSearch.Number
