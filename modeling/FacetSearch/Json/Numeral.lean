import FacetSearch.Json.Basic
import FacetSearch.Number.Decimal

/-!
# Numbers in JSON text

A numeral is an optional minus sign, digits without a leading zero, an optional fraction and an
optional exponent. Without fraction and exponent it stands for an integer if 64 bits hold it. Every
other numeral is read in two roundings: the leading digits that fit 64 bits become a binary number,
which is then multiplied or divided by a binary power of ten.
-/

namespace FacetSearch.Json

open Number (Binary Format maxWord)

structure Numeral where
  negative : Bool
  whole : List Nat
  fraction : Option (List Nat)
  exponent : Option (Bool × List Nat)

namespace Numeral

def digitsOf (cs : List Char) : List Nat × List Char :=
  let run := cs.takeWhile Char.isDigit
  (run.map fun c => c.toNat - 0x30, cs.dropWhile Char.isDigit)

/-- What follows the whole digits: a fraction, an exponent, both or neither. -/
def tail? (negative : Bool) (whole : List Nat) (cs : List Char) : Option Numeral :=
  let (fraction, cs) : Option (List Nat) × List Char := match cs with
    | '.' :: rest => (some (digitsOf rest).1, (digitsOf rest).2)
    | _ => (none, cs)
  if fraction = some [] then none
  else match cs with
    | [] => some ⟨negative, whole, fraction, none⟩
    | c :: rest =>
      if c = 'e' ∨ c = 'E' then
        let (minus, cs) : Bool × List Char := match rest with
          | '-' :: cs => (true, cs)
          | '+' :: cs => (false, cs)
          | cs => (false, cs)
        match digitsOf cs with
        | ([], _) => none
        | (digits, []) => some ⟨negative, whole, fraction, some (minus, digits)⟩
        | _ => none
      else none

def parts? (cs : List Char) : Option Numeral :=
  let (negative, cs) : Bool × List Char := match cs with
    | '-' :: rest => (true, rest)
    | _ => (false, cs)
  match digitsOf cs with
  | ([], _) => none
  | (0 :: _ :: _, _) => none
  | (whole, rest) => tail? negative whole rest

def valueOf (digits : List Nat) : Nat :=
  digits.foldl (fun acc d => acc * 10 + d) 0

/-- The leading digits that fit 64 bits behind `acc`, and how many they are. -/
def leading (acc : Nat) : List Nat → Nat × Nat
  | [] => (acc, 0)
  | d :: rest =>
    if maxWord < acc * 10 + d then (acc, 0)
    else
      let (value, count) := leading (acc * 10 + d) rest
      (value, count + 1)

/-- The largest power of ten that is a binary number. -/
def powerLimit : Nat := 308

def tenTo (n : Nat) : Option Binary := Binary.ofNat .double (Nat.pow 10 n)

def divByTen (x : Binary) (n : Nat) : Option Binary := (tenTo n).bind (x.div .double)

/-- The number scaled by a power of ten; nothing if that is too large. A division beyond the largest
binary power is done in two steps, and beyond the second nothing is left but zero. -/
def scale (x : Binary) (power : Int) : Option Binary :=
  let n := power.natAbs
  if x.significand = 0 then some x
  else if 0 ≤ power then
    if n ≤ powerLimit then (tenTo n).bind (x.mul .double) else none
  else if n ≤ powerLimit then divByTen x n
  else if n ≤ 2 * powerLimit then
    (divByTen x powerLimit).bind fun y => divByTen y (n - powerLimit)
  else some { x with significand := 0, exponent := Format.double.leastExponent }

def float? (n : Numeral) : Option Binary :=
  let (high, used) := leading 0 n.whole
  let dropped : Int := n.whole.length - used
  let (significand, places) := leading high (n.fraction.getD [])
  let point := dropped - places
  let sign (x : Binary) : Binary := { x with negative := n.negative }
  let scaled (power : Int) : Option Binary :=
    ((Binary.ofNat .double significand).bind fun x => scale x power).map sign
  match n.exponent with
  | none => scaled point
  | some (minus, digits) =>
    let e := valueOf digits
    if 0x80000000 ≤ e then
      if significand ≠ 0 ∧ !minus then none
      else some { negative := n.negative, significand := 0, exponent := Format.double.leastExponent }
    else scaled (if minus then point - e else point + e)

def value? (n : Numeral) : Option Json :=
  if n.fraction.isNone ∧ n.exponent.isNone then
    let v := valueOf n.whole
    if !n.negative ∧ v ≤ maxWord then some (.int v)
    else if n.negative ∧ 0 < v ∧ v ≤ 0x8000000000000000 then some (.int (-(v : Int)))
    else n.float?.map .float
  else n.float?.map .float

end Numeral

def number? (cs : List Char) : Option Json :=
  (Numeral.parts? cs).bind Numeral.value?

end FacetSearch.Json
