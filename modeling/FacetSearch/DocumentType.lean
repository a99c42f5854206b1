/-!
# Kinds of records

The service searches publications, tickets of the curation workflow, and records harvested from
elsewhere that await import.
-/

namespace FacetSearch

inductive DocumentType where
  | publication
  | ticket
  | importCandidate
  deriving DecidableEq, Repr, Inhabited

namespace DocumentType

def name : DocumentType → String
  | publication => "publication"
  | ticket => "ticket"
  | importCandidate => "importCandidate"

/-- The index that holds the records, before any prefix. -/
def index : DocumentType → String
  | publication => "resources"
  | ticket => "tickets"
  | importCandidate => "import-candidates"

def all : List DocumentType := [publication, ticket, importCandidate]

end DocumentType
end FacetSearch
