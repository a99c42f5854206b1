import FacetSearch.Json.Record

/-!
# Replies of the engine

What a page of results needs of the engine's answer. Fields may be missing, but one that is there must
have its type.
-/

namespace FacetSearch

structure Hit where
  source : Json
  sort : Option (List Json)
  deriving Repr, BEq

structure EngineReply where
  /-- How long the search took, in milliseconds. -/
  took : Nat
  /-- How many records match, if the engine says so. -/
  total : Option Nat
  hits : List Hit
  aggregations : Option Json
  deriving Repr, BEq

namespace EngineReply

/-- A total is a number, or an object that holds one. -/
def readTotal (value : Json) : Option Nat :=
  value.nat?.or ((value.get? "value").bind Json.nat?)

def readHit (value : Json) : Option Hit := do
  match ← value.record? ["_source", "sort"] with
  | [source, sort] => some ⟨source.getD .null, ← Json.optional? Json.items? sort⟩
  | _ => none

def readHits (value : Json) : Option (Option Nat × List Hit) := do
  match ← value.record? ["total", "hits"] with
  | [total, hits] =>
    let total ← Json.optional? readTotal total
    let hits ← match hits with
      | none => some []
      | some hits => hits.items?.bind (·.mapM readHit)
    some (total, hits)
  | _ => none

def ofJson? (value : Json) : Option EngineReply := do
  match ← value.record? ["took", "hits", "aggregations"] with
  | [took, some hits, aggregations] =>
    let took ← Json.natOr? 0 took
    let (total, hits) ← readHits hits
    some { took, total, hits, aggregations := aggregations.filter fun value => !value.isNull }
  | _ => none

/-- How many records match; the hits themselves if the engine does not say. -/
def totalHits (r : EngineReply) : Nat := r.total.getD r.hits.length

end EngineReply
end FacetSearch
