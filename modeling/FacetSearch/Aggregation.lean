import FacetSearch.Clause.Basic
import FacetSearch.FacetSelection

/-!
# Facet counts

Every selected facet becomes one aggregation behind a filter. The filter holds the clauses of the
other active facets, so that a facet's counts reflect every refinement but its own.
-/

namespace FacetSearch

inductive Aggregation where
  /-- The commonest values of a field with their counts. -/
  | terms (field : String) (size : Nat) (parts : List (String × Aggregation))
  | inside (path : String) (parts : List (String × Aggregation))
  | filtered (clause : Clause) (parts : List (String × Aggregation))
  /-- One record or object, reduced to what stands at `source`. -/
  | sample (source : String)
  /-- The records that hold the objects counted. -/
  | holders (parts : List (String × Aggregation))
  | distinct (field : String)
  deriving Repr, BEq

namespace Aggregation

open Clause (single)

mutual

def toJson : Aggregation → Json
  | terms field size parts =>
    .obj (("terms", .obj [("field", .str field), ("size", .nat size)]) ::
      (if parts.isEmpty then [] else [("aggs", .obj (partsToJson parts))]))
  | inside path parts =>
    .obj [("nested", single "path" (.str path)), ("aggs", .obj (partsToJson parts))]
  | filtered clause parts =>
    .obj [("filter", clause.toJson), ("aggs", .obj (partsToJson parts))]
  | sample source =>
    single "top_hits" (.obj [("size", .nat 1), ("_source", single "includes" (.strs [source]))])
  | holders parts => .obj [("reverse_nested", .obj []), ("aggs", .obj (partsToJson parts))]
  | distinct field => single "cardinality" (single "field" (.str field))

def partsToJson : List (String × Aggregation) → List (String × Json)
  | [] => []
  | (name, aggregation) :: rest => (name, aggregation.toJson) :: partsToJson rest

end

/-! ### Names of the parts -/

def labelsName : String := "labels"
def holdersName : String := "parent"
def distinctName : String := "documents"
def valuesName : String := "values"

end Aggregation

namespace Facet

open Aggregation

/-- Whether each value is counted by the records that hold it. -/
def countsHolders (f : Facet) : Bool :=
  f.countsRecords && f.nested.isSome

/-- What is asked for beside the count of each value. -/
def valueParts (f : Facet) (identifierField : String) : List (String × Aggregation) :=
  (f.labelsSource.map fun source => (labelsName, sample source)).toList ++
    (if f.countsHolders then [(holdersName, holders [(distinctName, distinct identifierField)])]
    else [])

def counts (f : Facet) (identifierField : String) : Aggregation :=
  let values := terms f.field f.size (f.valueParts identifierField)
  match f.nested with
  | some path => inside path [(valuesName, values)]
  | none => values

def otherClauses (f : Facet) (active : List (String × Clause)) : List Clause :=
  (active.filter (·.1 != f.name)).map (·.2)

/-- What a record must satisfy to be counted for `f`. -/
def crossFilter (f : Facet) (active : List (String × Clause)) : Clause :=
  match f.otherClauses active with
  | [] => .everything
  | clauses => .allOf clauses

def aggregation (f : Facet) (identifierField : String) (active : List (String × Clause)) :
    Aggregation :=
  .filtered (f.crossFilter active) [(f.name, f.counts identifierField)]

end Facet

namespace Aggregation

/-- The parts with one more; a part of the same name makes way for it. -/
def put (name : String) (aggregation : Aggregation) :
    List (String × Aggregation) → List (String × Aggregation)
  | [] => [(name, aggregation)]
  | part :: rest =>
    if part.1 = name then (name, aggregation) :: rest else part :: put name aggregation rest

def plan (facets : List Facet) (identifierField : String) (selection : FacetSelection)
    (active : List (String × Clause)) : List (String × Aggregation) :=
  (facets.filter selection.includes).foldl
    (fun acc f => put f.name (f.aggregation identifierField active) acc) []

end Aggregation
end FacetSearch
