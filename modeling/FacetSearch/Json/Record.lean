import FacetSearch.Json.Basic
import FacetSearch.Number.Decimal

/-!
# Records in JSON

A record with known fields is written as an object, whose further fields do not matter, or as an array
of its fields in their order, whose last ones may be left out.
-/

namespace FacetSearch.Json

/-- The values of the fields of these names, in this order. -/
def record? (names : List String) : Json → Option (List (Option Json))
  | obj fields => some (names.map fun name => (obj fields).get? name)
  | arr items =>
    if items.length ≤ names.length then
      some (items.map some ++ List.replicate (names.length - items.length) none)
    else none
  | _ => none

/-- A value that is a natural number of 64 bits, or `fallback` if there is none. -/
def natOr? (fallback : Nat) : Option Json → Option Nat
  | none => some fallback
  | some value => value.nat?

/-- An optional value: nothing if it is absent or null. -/
def optional? (read : Json → Option α) : Option Json → Option (Option α)
  | none | some null => some none
  | some value => (read value).map some

/-- The index that a token of a path stands for: digits without a leading zero. -/
def index? (token : String) : Option Nat :=
  match token.toList with
  | '0' :: _ :: _ => none
  | cs => Number.Decimal.digits? cs

/-- One step into a value: a field of an object, an item of an array. -/
def step? (value : Json) (token : String) : Option Json :=
  match value with
  | obj fields => (obj fields).get? token
  | arr items => (index? token).bind (items[·]?)
  | _ => none

/-- What stands at the end of a path through objects and arrays. -/
def pointed? (path : List String) (value : Json) : Option Json :=
  path.foldlM step? value

end FacetSearch.Json
