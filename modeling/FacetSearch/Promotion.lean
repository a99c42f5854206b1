import FacetSearch.Catalogue.Basic
import FacetSearch.Clause.Basic
import FacetSearch.Criteria

/-!
# Promoted results

For some subjects, an author for instance, editors have chosen records that come first. A request for
exactly one subject gets them; if they cannot be looked up, it goes on without them.
-/

namespace FacetSearch

structure PromotionTable where
  entries : List (String × List String) := []
  deriving DecidableEq, Repr

inductive PromotionLookup where
  | found (identifiers : List String)
  | failed
  /-- There was no answer within the time that it was given. -/
  | late
  deriving DecidableEq, Repr

namespace PromotionTable

/-- The table that a JSON object spells: a list of identifiers for each subject. -/
def ofJson? (value : Json) : Option PromotionTable := do
  let fields ← value.fields?
  let entries ← fields.mapM fun (subject, ids) => ids.strs?.map fun ids => (subject, ids)
  some ⟨entries⟩

def lookup (table : PromotionTable) (subject : String) : PromotionLookup :=
  .found (((table.entries.find? (·.1 == subject)).map (·.2)).getD [])

def size (table : PromotionTable) : Nat := table.entries.length

end PromotionTable

/-- The one subject of a request that may have promoted records. -/
def Catalogue.promotionSubject? (catalogue : Catalogue) (c : Criteria) : Option String :=
  catalogue.definition.promotionKey.bind fun name =>
    match c.listed name with
    | [subject] => some subject
    | _ => none

namespace Promotion

/-- The identifiers found; a look-up that failed or is late finds none. -/
def identifiers : PromotionLookup → List String
  | .found identifiers => identifiers
  | .failed | .late => []

def resolve (catalogue : Catalogue) (c : Criteria) (lookup : String → PromotionLookup) :
    List String :=
  match catalogue.promotionSubject? c with
  | some subject => identifiers (lookup subject)
  | none => []

def step : Boost := Boost.ofRatio 3 1

/-- The clause of the record that has `ahead` records of the list, itself among them, to go. -/
def clause (identifierField : String) (ahead : Nat) (identifier : String) : Clause :=
  .boostedTerm identifierField identifier ((Boost.ofRatio ahead 1).mul step)

/-- Clauses that raise each promoted record above those after it. -/
def clauses (identifierField : String) : List String → List Clause
  | [] => []
  | identifier :: rest =>
    clause identifierField (rest.length + 1) identifier :: clauses identifierField rest

end Promotion
end FacetSearch
