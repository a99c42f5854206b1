import FacetSearch.AccessFilter
import FacetSearch.Aggregation
import FacetSearch.Clause.OfParameter
import FacetSearch.Cursor
import FacetSearch.Promotion

/-!
# Queries for the engine

`Catalogue.compile` turns accepted criteria into a query. Clauses of parameters that refine a facet
filter the hits after the counting; all other clauses are scored. The filter of what the client may
see stands apart, and denies everything until `Query.authorize` sets it.
-/

namespace FacetSearch

/-- One step of an order: a field, a direction, and whether records without the field come last. -/
structure SortStep where
  field : String
  direction : Direction
  missingLast : Bool
  deriving DecidableEq, Repr

namespace SortStep

def toJson (s : SortStep) : Json :=
  Clause.single s.field (.obj (("order", .str s.direction.word) ::
    (if s.missingLast then [("missing", .str "_last")] else [])))

def ofField (direction : Direction) (field : String) : SortStep :=
  ⟨field, direction, field != SortKey.scoreField⟩

def tieBreaker (identifierField : String) : SortStep :=
  ⟨identifierField, .ascending, false⟩

/-- The order of a list of directives, the identifier last unless it is among them. -/
def ofDirectives (ds : List Directive) (identifierField : String) : List SortStep :=
  let steps := ds.flatMap fun d => d.key.fields.map (ofField d.direction)
  if ds.any fun d => d.key.fields.contains identifierField then steps
  else steps ++ [tieBreaker identifierField]

/-- Best hits first, which keeps promoted records on top. -/
def byRelevance (identifierField : String) : List SortStep :=
  [⟨SortKey.scoreField, .descending, false⟩, tieBreaker identifierField]

end SortStep

structure Query where
  documentType : DocumentType
  must : List Clause
  promotions : List Clause
  refinements : List (String × Clause)
  access : Access := .denied
  aggregations : List (String × Aggregation)
  sort : List SortStep
  offset : Nat
  size : Nat
  /-- The sort values behind which to continue. -/
  after : Option (List Json)
  included : List String
  excluded : List String
  deriving Repr

namespace Query

def authorize (q : Query) (filter : AccessFilter) : Query :=
  { q with access := .granted filter }

/-- A field that is left out if its list is empty. -/
def unlessEmpty (name : String) (items : List α) (value : Json) : List (String × Json) :=
  if items.isEmpty then [] else [(name, value)]

def matching (q : Query) : Json :=
  let must := Clause.listToJson q.must
  let should := Clause.listToJson q.promotions
  .obj (("filter", .arr (Clause.listToJson q.access.clauses)) ::
    unlessEmpty "must" must (.arr must) ++
    unlessEmpty "should" should (.arr should) ++
    unlessEmpty "minimum_should_match" should (.nat 0))

def sourceFields (q : Query) : List (String × Json) :=
  unlessEmpty "includes" q.included (.strs q.included) ++
    unlessEmpty "excludes" q.excluded (.strs q.excluded)

def body (q : Query) : Json :=
  let start : String × Json := match q.after with
    | some values => ("search_after", .arr values)
    | none => ("from", .nat q.offset)
  let refinements := Clause.listToJson (q.refinements.map (·.2))
  .obj ([("query", Clause.single "bool" q.matching),
    ("sort", .arr (q.sort.map SortStep.toJson)), ("size", .nat q.size),
    ("track_total_hits", .bool true), start] ++
    unlessEmpty "post_filter" refinements
      (Clause.single "bool" (Clause.single "must" (.arr refinements))) ++
    unlessEmpty "aggs" q.aggregations (.obj (Aggregation.partsToJson q.aggregations)) ++
    unlessEmpty "_source" q.sourceFields (.obj q.sourceFields))

end Query

namespace Catalogue

/-- The facet that the entry's parameter refines, if the catalogue has it. -/
def refined? (catalogue : Catalogue) (e : Entry) : Option String :=
  e.parameter.facet.filter fun name => (catalogue.facet? name).isSome

/-- The directives of the criteria, or of the catalogue's own order. -/
def directives (catalogue : Catalogue) (c : Criteria) : List Directive :=
  let read (expression : String) : Option (List Directive) :=
    (catalogue.sorts.parse expression none).toOption
  ((c.sort?.bind read).or (read catalogue.definition.defaultSort)).getD []

/-- The parts of a record left out: those named, and the catalogue's own unless they are asked
for. -/
def leftOut (catalogue : Catalogue) (c : Criteria) : List String :=
  catalogue.definition.sourceExcludes.foldl
    (fun acc path => if c.included.contains path || acc.contains path then acc else acc ++ [path])
    c.excluded

/-- The query for accepted criteria. Promoted records count only while the criteria name exactly one
subject. -/
def compile (catalogue : Catalogue) (c : Criteria) (promoted : List String) : Query :=
  let clauses := c.search.filterMap fun e => (e.clause? c).map fun clause => (e, clause)
  let refinements := clauses.filterMap fun (e, clause) =>
    (catalogue.refined? e).map fun facet => (facet, clause)
  let identifierField := catalogue.definition.identifierField
  let promotions := match catalogue.promotionSubject? c with
    | some _ => Promotion.clauses identifierField promoted
    | none => []
  { documentType := catalogue.documentType
    must := (clauses.filter fun (e, _) => (catalogue.refined? e).isNone).map (·.2)
    promotions, refinements
    aggregations := Aggregation.plan catalogue.facets identifierField c.facets refinements
    sort := if promotions.isEmpty then SortStep.ofDirectives (catalogue.directives c) identifierField
      else SortStep.byRelevance identifierField
    offset := c.offset
    size := c.size
    after := (c.searchAfter?.bind Cursor.decode?).map (·.sortValues)
    included := c.included
    excluded := catalogue.leftOut c }

end Catalogue
end FacetSearch
