import FacetSearch.Number.Decimal

/-!
# Facets

A facet counts the records for each value of a field. Its values refine a search through the
parameter that is bound to it.
-/

namespace FacetSearch

structure Facet where
  name : String
  parameter : String
  field : String
  /-- The path of the nested objects that hold the field. -/
  nested : Option String := none
  /-- Where, within the object counted, the display names of a value stand. -/
  labels : Option String := none
  /-- Whether records are counted rather than the nested objects in them. -/
  countsRecords : Bool := false
  size : Nat := 50
  deriving DecidableEq, Repr

namespace Facet

/-- A facet over nested objects that counts the records holding them. -/
def within (f : Facet) (path : String) : Facet :=
  { f with nested := some path, countsRecords := true }

def labelsSource (f : Facet) : Option String :=
  f.labels.map fun labels =>
    match f.nested with
    | some path => path ++ "." ++ labels
    | none => labels

end Facet
end FacetSearch
