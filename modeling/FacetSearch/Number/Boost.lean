import FacetSearch.Json.Basic
import FacetSearch.Number.Shortest

/-!
# Boosts

Factors for the score of a clause: numbers of 32 bits. As JSON a boost is written with all its 64-bit
digits, beside a field path with the fewest digits that tell it from other boosts.
-/

namespace FacetSearch

open Number (Binary Format)

inductive Boost where
  | finite (value : Binary)
  | infinite (negative : Bool)
  deriving DecidableEq, Repr, BEq

namespace Boost

def ofBinary (x : Binary) : Boost :=
  match x.convert Format.single with
  | some y => finite y
  | none => infinite x.negative

def ofRatio (num den : Nat) : Boost :=
  match Binary.nearest Format.single false num den with
  | some y => finite y
  | none => infinite false

def one : Boost := ofRatio 1 1

def mul : Boost → Boost → Boost
  | finite x, finite y =>
    match x.mul Format.single y with
    | some z => finite z
    | none => infinite (x.negative != y.negative)
  | finite x, infinite n => infinite (x.negative != n)
  | infinite n, finite y => infinite (n != y.negative)
  | infinite m, infinite n => infinite (m != n)

/-- Whether the boost is within the last place of one and so changes nothing. -/
def isNeutral : Boost → Bool
  | infinite _ => false
  | finite x =>
    let (num, den) := x.quotient
    let gap := if num ≤ den then den - num else num - den
    !x.negative && gap * 0x800000 < den

/-- The order of boosts, with a negative zero just below zero. -/
def le : Boost → Boost → Bool
  | infinite true, _ => true
  | _, infinite false => true
  | finite x, finite y => x.le y
  | _, _ => false

def toJson : Boost → Json
  | finite x => Json.number (x.convert Format.double)
  | infinite _ => .null

def text : Boost → String
  | finite x => String.ofList (Number.plainText Format.single x)
  | infinite negative => if negative then "-inf" else "inf"

end Boost
end FacetSearch
