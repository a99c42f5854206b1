import FacetSearch.Criteria
import FacetSearch.Facet

/-!
# Selected facets

A request names the facets it wants, or all of them, or none. One `none` among the names outweighs
everything else, and one `all` outweighs other names.
-/

namespace FacetSearch

inductive FacetSelection where
  | none
  | all
  | only (names : List String)
  deriving DecidableEq, Repr

namespace FacetSelection

def parse (s : String) : FacetSelection :=
  let names := ((Text.split ',' s).map Text.trim).filter (· != "")
  if names.isEmpty || names.any (Text.sameWord · Control.noFacets) then none
  else if names.any (Text.sameWord · Control.allFacets) then all
  else only names

def includes (selection : FacetSelection) (facet : Facet) : Bool :=
  match selection with
  | none => false
  | all => true
  | only names => names.any (Text.sameWord · facet.name)

end FacetSelection

def Criteria.facets (c : Criteria) : FacetSelection :=
  ((c.get? Control.aggregation).map FacetSelection.parse).getD .none

end FacetSearch
