import FacetSearch.Clause.Basic

/-!
# Access

What a client may see is decided outside the query and kept apart from it. A query for which nothing
was decided matches nothing.
-/

namespace FacetSearch

structure AccessFilter where
  clauses : List Clause := []
  deriving Repr, BEq

namespace AccessFilter

def require (f : AccessFilter) (clause : Clause) : AccessFilter :=
  ⟨f.clauses ++ [clause]⟩

/-- Requires a field to have one of the values; if there are none, nothing will do. -/
def requireAny (f : AccessFilter) (field : String) (values : List String) : AccessFilter :=
  f.require (if values.isEmpty then .nothing else .terms field values)

end AccessFilter

inductive Access where
  | denied
  | granted (filter : AccessFilter)
  deriving Repr, BEq

namespace Access

def clauses : Access → List Clause
  | denied => [.nothing]
  | granted filter => filter.clauses

def isDenied : Access → Bool
  | denied => true
  | granted _ => false

end Access
end FacetSearch
