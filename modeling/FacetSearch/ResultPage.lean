import FacetSearch.Engine.Failure
import FacetSearch.Engine.Reply
import FacetSearch.Json.Printer
import FacetSearch.Linker
import FacetSearch.Query

/-!
# Pages of results

`Catalogue.assemble` makes a page of the engine's reply to a query: the records, how many there are,
the links to other pages, and the counted values of each facet, each with a link that refines the
search to it.
-/

namespace FacetSearch

structure Bucket where
  link : Option String
  key : String
  count : Nat
  labels : Option (List (String × String)) := none
  deriving DecidableEq, Repr

structure ResultPage where
  context : String
  link : String
  totalHits : Nat
  hits : List Json
  next : Option String
  previous : Option String
  continuation : Option String
  facets : List (String × List Bucket)
  /-- How long the engine took, in milliseconds. -/
  took : Nat
  deriving Repr, BEq

/-! ### Written form -/

namespace Bucket

def toJson (b : Bucket) : Json :=
  .obj ([("id", .optStr b.link), ("key", .str b.key), ("count", .nat b.count)] ++
    (b.labels.map fun labels =>
      ("labels", Json.object (labels.map fun (language, label) => (language, .str label)))).toList)

def readLabels (value : Json) : Option (List (String × String)) := do
  (← value.fields?).mapM fun (language, label) => label.str?.map fun label => (language, label)

def ofJson? (value : Json) : Option Bucket := do
  match ← value.record? ["id", "key", "count", "labels"] with
  | [link, some key, some count, labels] =>
    some { link := ← Json.optional? Json.str? link
           key := ← key.str?
           count := ← count.nat?
           labels := ← Json.optional? readLabels labels }
  | _ => none

end Bucket

namespace ResultPage

def toJson (p : ResultPage) : Json :=
  .obj ([("@context", .str p.context), ("id", .str p.link), ("totalHits", .nat p.totalHits),
    ("hits", .arr p.hits), ("nextResults", .optStr p.next), ("previousResults", .optStr p.previous)] ++
    (p.continuation.map fun link => ("nextSearchAfterResults", Json.str link)).toList ++
    [("aggregations", Json.object (p.facets.map fun (name, buckets) =>
        (name, .arr (buckets.map Bucket.toJson)))),
      ("processingTime", .nat p.took)])

def fieldNames : List String :=
  ["@context", "id", "totalHits", "hits", "nextResults", "previousResults", "nextSearchAfterResults",
    "aggregations", "processingTime"]

def readFacets (value : Json) : Option (List (String × List Bucket)) := do
  (← value.fields?).mapM fun (name, buckets) => do
    some (name, ← (← buckets.items?).mapM Bucket.ofJson?)

def ofJson? (value : Json) : Option ResultPage := do
  match ← value.record? fieldNames with
  | [some context, some link, some total, some hits, next, previous, continuation, some facets,
      some took] =>
    some { context := ← context.str?
           link := ← link.str?
           totalHits := ← total.nat?
           hits := ← hits.items?
           next := ← Json.optional? Json.str? next
           previous := ← Json.optional? Json.str? previous
           continuation := ← Json.optional? Json.str? continuation
           facets := ← readFacets facets
           took := ← took.nat? }
  | _ => none

/-- The context that says what the fields of a page mean. -/
def standardContext : String := "https://api.scholar-search.org/context/search-result.json"

end ResultPage

/-! ### Counted values -/

namespace Facet

open Aggregation (holdersName distinctName valuesName labelsName)

/-- The counts of the facet among the aggregations of a reply: behind its filter, and behind its
nested objects if it has them. -/
def countsIn? (f : Facet) (aggregations : Json) : Option Json :=
  aggregations.at? ([f.name, f.name] ++ if f.nested.isSome then [valuesName] else [])

/-- The value that a bucket counts; one that is no text is shown as JSON. -/
def bucketKey? (bucket : Json) : Option String :=
  (bucket.get? "key").map fun key => key.str?.getD key.text

/-- How many records a bucket counts: those that hold its objects, where they were asked for. -/
def bucketCount (bucket : Json) : Nat :=
  let counted := (bucket.pointed? [holdersName, distinctName, "value"]).or
    ((bucket.pointed? [holdersName, "doc_count"]).or (bucket.get? "doc_count"))
  (counted.bind Json.nat?).getD 0

def bucketLabels? (f : Facet) (bucket : Json) : Option (List (String × String)) := do
  let path ← f.labels
  let sample ← bucket.pointed? [labelsName, "hits", "hits", "0", "_source"]
  let fields ← (← sample.at? (Text.split '.' path)).fields?
  match fields.filterMap fun (language, label) => label.str?.map fun label => (language, label) with
  | [] => none
  | labels => some labels

def bucket? (f : Facet) (linker : Linker) (bucket : Json) : Option Bucket :=
  (bucketKey? bucket).map fun key =>
    { link := some (linker.refined f.parameter key).text
      key
      count := bucketCount bucket
      labels := f.bucketLabels? bucket }

/-- The facet's values in a reply, if the reply has them. -/
def buckets? (f : Facet) (linker : Linker) (aggregations : Json) : Option (List Bucket) := do
  let buckets ← (← f.countsIn? aggregations).get? "buckets"
  some ((← buckets.items?).filterMap (f.bucket? linker))

end Facet

namespace Catalogue

def bucketsOf (catalogue : Catalogue) (linker : Linker) (aggregations : Json) :
    List (String × List Bucket) :=
  catalogue.facets.filterMap fun f =>
    (f.buckets? linker aggregations).map fun buckets => (f.name, buckets)

def windowOf (q : Query) (total : Nat) : Window :=
  ⟨if q.after.isSome then 0 else q.offset, q.size, total⟩

def pageOf (catalogue : Catalogue) (linker : Linker) (context : String) (q : Query)
    (reply : EngineReply) : ResultPage :=
  let links := linker.links (windowOf q reply.totalHits) reply.hits.length
    (reply.hits.getLast?.bind (·.sort))
  { context
    link := links.self.text
    totalHits := reply.totalHits
    hits := reply.hits.map (·.source)
    next := links.next.map Url.text
    previous := links.previous.map Url.text
    continuation := links.continuation.map Url.text
    facets := (reply.aggregations.map (catalogue.bucketsOf linker)).getD []
    took := reply.took }

/-- The page for a query that the engine of this name answered with `response`. -/
def assemble (catalogue : Catalogue) (linker : Linker) (context engine : String) (q : Query)
    (response : Json) : Except EngineFailure ResultPage :=
  match EngineReply.ofJson? response with
  | some reply => .ok (catalogue.pageOf linker context q reply)
  | none => .error (.badResponse engine 200 "Unexpected response shape")

end Catalogue
end FacetSearch
