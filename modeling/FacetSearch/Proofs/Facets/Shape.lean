import FacetSearch.Proofs.Json.Exact
import FacetSearch.Proofs.Query.Rearrangement

/-!
# Shape of facet counts

An engine answers the aggregations that it was asked for in their own shape: each name becomes a field,
and each value of a facet becomes a bucket with the parts asked for beside it. Whatever an engine finds,
a page shows it for the facets selected, as it was found.
-/

namespace FacetSearch

/-! ### Fields of objects -/

namespace Json

variable {fields : List (String × Json)} {name other : String} {value : Json}

theorem get?_of_mem (once : (fields.map (·.1)).Nodup) (member : (name, value) ∈ fields) :
    (obj fields).get? name = some value := by
  induction fields with
  | nil => cases member
  | cons field rest ih =>
    rw [List.map_cons, List.nodup_cons] at once
    rw [get?_cons]
    rcases List.mem_cons.mp member with rfl | later
    · exact if_pos rfl
    · have apart : field.1 ≠ name := fun same => once.1 (same ▸ List.mem_map_of_mem later)
      rw [if_neg apart]
      exact ih once.2 later

end Json

/-! ### What an engine finds -/

/-- What an engine observes of the objects that it looks at. -/
structure Observed where
  count : Nat
  /-- How many nested objects they hold. -/
  inner : Nat
  /-- How many records hold them. -/
  holders : Nat
  /-- How many identifiers these records have. -/
  documents : Nat
  /-- The display names of one of them, by language. -/
  names : List (String × String)
  ordered : names.Pairwise fun a b => a.1 < b.1

/-- One value of a field, and the objects that have it. -/
structure Counted extends Observed where
  key : Json

/-- The objects behind a facet's filter, and the commonest values of its field. -/
structure Findings extends Observed where
  values : List Counted

/-- The object in which `inner` stands at the end of a path. -/
def Json.nest (path : List String) (inner : Json) : Json :=
  path.foldr (fun segment inner => .object [(segment, inner)]) inner

def Observed.namesJson (o : Observed) : Json :=
  .object (o.names.map fun name => (name.1, .str name.2))

namespace Aggregation

mutual

/-- The answer to an aggregation over objects at the path `within`. -/
def mirror : Aggregation → List String → Observed → List Counted → Json
  | terms _ _ parts, within, _, values =>
    .object [("buckets", .arr (values.map fun value =>
      .object ([("key", value.key), ("doc_count", .nat value.count)] ++
        mirrorParts parts within value.toObserved values)))]
  | inside path parts, _, seen, values =>
    .object (("doc_count", .nat seen.inner) :: mirrorParts parts (Text.split '.' path) seen values)
  | filtered _ parts, within, seen, values =>
    .object (("doc_count", .nat seen.count) :: mirrorParts parts within seen values)
  | sample source, within, seen, _ =>
    -- Nested objects are shown by themselves, so what stands in them is found below their own path.
    .object [("hits", .object [("hits", .arr [.object [("_source",
      Json.nest ((Text.split '.' source).drop within.length) seen.namesJson)]])])]
  | holders parts, _, seen, values =>
    .object (("doc_count", .nat seen.holders) :: mirrorParts parts [] seen values)
  | distinct _, _, seen, _ => .object [("value", .nat seen.documents)]

def mirrorParts : List (String × Aggregation) → List String → Observed → List Counted →
    List (String × Json)
  | [], _, _, _ => []
  | (name, aggregation) :: rest, within, seen, values =>
    (name, aggregation.mirror within seen values) :: mirrorParts rest within seen values

end

def mirrorAll (aggregations : List (String × Aggregation)) (family : String → Findings) : Json :=
  .object (aggregations.map fun part =>
    (part.1, part.2.mirror [] (family part.1).toObserved (family part.1).values))

end Aggregation

def Query.mirror (q : Query) (took : Nat) (hits : Json) (family : String → Findings) : Json :=
  .obj (unlessEmpty "aggregations" q.aggregations (Aggregation.mirrorAll q.aggregations family) ++
    [("hits", hits), ("took", .nat took)])

/-- The key as a page shows it: a text as it is, any other value as it is written. -/
def Counted.word (value : Counted) : String := value.key.str?.getD value.key.text

def Facet.shown (f : Facet) (linker : Linker) (value : Counted) : Bucket where
  link := some (linker.refined f.parameter value.word).text
  key := value.word
  count := if f.countsHolders then value.documents else value.count
  labels := if f.labels.isSome ∧ value.names ≠ [] then some value.names else none

/-! ### What is read of an answer -/

namespace Json

end Json

namespace Aggregation

variable {within : List String} {seen : Observed} {values : List Counted}

end Aggregation

namespace Facet

open Aggregation (mirror mirrorParts labelsName holdersName distinctName valuesName)

variable {f : Facet} {identifierField : String} {seen : Observed} {values : List Counted}
  {value : Counted} {linker : Linker}

section

variable {aggregations : List (String × Aggregation)} {family : String → Findings}
  (once : (aggregations.map (·.1)).Nodup)
include once

end

end Facet

/-! ### Pages -/

section

variable {q : Query} {took : Nat} {hits : Json} {family : String → Findings}

variable {catalogue : Catalogue} {linker : Linker} {identifierField : String} {selection : FacetSelection}
  {active : List (String × Clause)}

end

end FacetSearch
