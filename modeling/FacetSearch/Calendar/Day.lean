import FacetSearch.Number.Decimal

/-!
# Days of the calendar

The Gregorian calendar, carried back before its introduction, from the year 0 on.
-/

namespace FacetSearch.Calendar

def lastYear : Nat := 262142

def isLeap (year : Nat) : Bool :=
  year % 4 == 0 && (year % 100 != 0 || year % 400 == 0)

/-- The days of a month; none if there is no such month. -/
def daysIn (year month : Nat) : Nat :=
  if month = 2 then (if isLeap year then 29 else 28)
  else if month = 4 ∨ month = 6 ∨ month = 9 ∨ month = 11 then 30
  else if 1 ≤ month ∧ month ≤ 12 then 31
  else 0

def isDay (year month day : Nat) : Bool :=
  year ≤ lastYear && 1 ≤ day && day ≤ daysIn year month

/-- A year as written in a day: four digits, and a plus sign in front of more. -/
def yearText (year : Nat) : List Char :=
  if year ≤ 9999 then Number.Decimal.padded 4 year else '+' :: Number.Decimal.padded 4 year

theorem daysIn_le (year month : Nat) : daysIn year month ≤ 31 := by
  unfold daysIn
  split
  · split <;> omega
  · repeat' split
    all_goals omega

theorem daysIn_pos_iff (year month : Nat) : 0 < daysIn year month ↔ 1 ≤ month ∧ month ≤ 12 := by
  unfold daysIn
  split
  · split <;> omega
  · repeat' split
    all_goals omega

end FacetSearch.Calendar
