import FacetSearch.Calendar.Day
import FacetSearch.Text.Split

/-!
# Periods

A year, a month or a day, written `yyyy`, `yyyy-mm` or `yyyy-mm-dd`, with its first and last day.
-/

namespace FacetSearch.Calendar

/-- A year, and within it a month and a day where they are given. -/
structure Period where
  year : Nat
  month : Option Nat := none
  day : Option Nat := none
  deriving DecidableEq, Repr

namespace Period

/-- The largest number read as a year, and as a month or day. -/
def yearLimit : Nat := 0x7FFFFFFF
def partLimit : Nat := 0xFFFFFFFF

/-- The part behind a dash, if there is one; one that is no number makes the whole unreadable. -/
def part? : List (List Char) → Option (Option Nat)
  | [] => some none
  | cs :: _ => (Number.Decimal.read? partLimit cs).map some

/-- The period that a text spells. What follows a day is not read. -/
def parse? (s : String) : Option Period :=
  match Text.splitWhere (· == '-') s.toList with
  | [] => none
  | year :: rest => do
    let year ← Number.Decimal.read? yearLimit year
    let month ← part? rest
    let day ← part? (rest.drop 1)
    some { year, month, day }

def isReal (p : Period) : Bool :=
  isDay p.year (p.month.getD 1) (p.day.getD 1)

end Period

def isPeriod (s : String) : Bool :=
  (Period.parse? s).any Period.isReal

open Number.Decimal (padded)

/-- The first day of the period that a text spells; any other text itself. -/
def firstDay (s : String) : String :=
  match Period.parse? s with
  | some { year, month := none, .. } => String.ofList (padded 4 year ++ "-01-01".toList)
  | some { year, month := some month, day := none } =>
    String.ofList (padded 4 year ++ '-' :: padded 2 month ++ "-01".toList)
  | _ => s

/-- The last day of the period that a text spells; any other text itself, and so is the last month
of all, whose end is known by the month after it. -/
def lastDay (s : String) : String :=
  match Period.parse? s with
  | some { year, month := none, .. } => String.ofList (padded 4 year ++ "-12-31".toList)
  | some { year, month := some month, day := none } =>
    if isDay year month 1 ∧ ¬(year = lastYear ∧ month = 12) then
      String.ofList (yearText year ++ '-' :: padded 2 month ++ '-' :: padded 2 (daysIn year month))
    else s
  | _ => s

end FacetSearch.Calendar
