import Mathlib.Data.List.Dedup
import FacetSearch.Proofs.Query.Semantics
import FacetSearch.ResultPage

/-!
# What the engine counts

An engine knows the values that the fields of an object have. It answers an aggregation for the objects
that it looks at, each of them beside its document: a bucket holds a value and the number of objects that
have it. What the page shows of a bucket is the number of documents that hold such an object.
-/

namespace FacetSearch

/-- Objects whose fields have values, which are what a term looks for. -/
structure Valuation (Object : Type) extends Interpretation Object where
  values : String → Object → List String
  term_eq : ∀ field value o, term field value o = (values field o).contains value

variable {Object : Type} (v : Valuation Object)

namespace Aggregation

/-- The fields that the engine may give a bucket of its own accord. -/
def bucketFields : List String := ["key", "key_as_string", "doc_count", "doc_count_error_upper_bound"]

/-- Whether a bucket has no parts but those that were asked for. -/
def hasOnly (parts : List (String × Aggregation)) (bucket : Json) : Bool :=
  (bucket.fields?.getD []).all fun field =>
    bucketFields.contains field.1 || (parts.map (·.1)).contains field.1

mutual

def isAnswer : Aggregation → List (Object × Object) → Json → Bool
  | terms field _ parts, seen, json =>
    match (json.get? "buckets").bind Json.items? with
    | none => false
    | some buckets => buckets.all fun bucket =>
      match (bucket.get? "key").bind Json.str? with
      | none => false
      | some value =>
        let holding := seen.filter fun (_, o) => v.term field value o
        (bucket.get? "doc_count").bind Json.nat? == some holding.length && hasOnly parts bucket &&
          areAnswered parts holding bucket
  | inside path parts, seen, json =>
    areAnswered parts (seen.flatMap fun (d, o) => (v.objects path o).map fun x => (d, x)) json
  | filtered clause parts, seen, json =>
    areAnswered parts (seen.filter fun (_, o) => clause.holds v.toInterpretation o) json
  | sample _, _, _ => true
  | holders parts, seen, json => areAnswered parts (seen.map fun (d, _) => (d, d)) json
  | distinct field, seen, json =>
    (json.get? "value").bind Json.nat? ==
      some (seen.flatMap fun (_, o) => v.values field o).dedup.length

def areAnswered : List (String × Aggregation) → List (Object × Object) → Json → Bool
  | [], _, _ => true
  | (name, aggregation) :: rest, seen, json =>
    (match json.get? name with
    | none => false
    | some part => isAnswer aggregation seen part) && areAnswered rest seen json

end

end Aggregation

/-- Whether this is a right reply to a query over these documents: the total counts the hits, and the
aggregations look at all documents matched. -/
def Query.isReply (q : Query) (documents : List Object) (reply : EngineReply) : Bool :=
  reply.totalHits == (q.hits v.toInterpretation documents).length &&
    match reply.aggregations with
    | none => q.aggregations.isEmpty
    | some json => Aggregation.areAnswered v q.aggregations
      ((documents.filter (q.isMatch v.toInterpretation)).map fun d => (d, d)) json

/-- Documents each of which has one identifier, no two of them the same. -/
structure Valuation.Identifies (field : String) (documents : List Object) : Prop where
  single : ∀ d ∈ documents, ∃ id, v.values field d = [id]
  apart : (documents.map (v.values field)).Nodup

variable {v}

theorem Valuation.identifies_of_length {field : String} {documents : List Object}
    (single : ∀ d ∈ documents, (v.values field d).length = 1)
    (apart : (documents.map (v.values field)).Nodup) : v.Identifies field documents :=
  ⟨fun d hd => List.length_eq_one_iff.mp (single d hd), apart⟩

/-! ### Parts of an aggregation -/

namespace Aggregation

variable {facets : List Facet} {parts : List (String × Aggregation)} {name : String}
  {a : Aggregation} {seen : List (Object × Object)} {json : Json}

theorem exists_of_areAnswered (answered : areAnswered v parts seen json = true)
    (asked : (name, a) ∈ parts) : ∃ part, json.get? name = some part ∧ isAnswer v a seen part = true := by
  induction parts with
  | nil => cases asked
  | cons first rest ih =>
    rw [areAnswered, Bool.and_eq_true] at answered
    rcases List.mem_cons.mp asked with rfl | asked
    · cases found : json.get? name with
      | none =>
        rw [found] at answered
        cases answered.1
      | some part =>
        rw [found] at answered
        exact ⟨part, rfl, answered.1⟩
    · exact ih answered.2 asked

/-- What a right answer says of each bucket. -/
theorem exists_of_isAnswer_terms {field : String} {size : Nat}
    (answer : isAnswer v (terms field size parts) seen json = true) :
    ∃ items, json.get? "buckets" = some (.arr items) ∧ ∀ item ∈ items, ∃ value,
      item.get? "key" = some (.str value) ∧
      (item.get? "doc_count").bind Json.nat? =
        some (seen.filter fun (_, o) => v.term field value o).length ∧
      hasOnly parts item = true ∧
      areAnswered v parts (seen.filter fun (_, o) => v.term field value o) item = true := by
  rw [isAnswer] at answer
  split at answer
  · cases answer
  · rename_i items listed
    obtain ⟨array, found, isArray⟩ := Option.bind_eq_some_iff.mp listed
    cases array with
    | arr _ =>
      obtain rfl := Option.some.inj isArray
      refine ⟨_, found, fun item member => ?_⟩
      have each := List.all_eq_true.mp answer item member
      split at each
      · cases each
      · rename_i value text
        obtain ⟨key, named, isText⟩ := Option.bind_eq_some_iff.mp text
        cases key with
        | str _ =>
          obtain rfl := Option.some.inj isText
          simp only [Bool.and_eq_true, beq_iff_eq] at each
          exact ⟨_, named, each.1.1, each.1.2, each.2⟩
        | null | bool | int | float | arr | obj => cases isText
    | null | bool | int | float | str | obj => cases isArray

theorem get?_eq_none_of_hasOnly {bucket : Json} (only : hasOnly parts bucket = true)
    (own : name ∉ bucketFields) (absent : name ∉ parts.map (·.1)) : bucket.get? name = none := by
  cases bucket with
  | obj fields =>
    rw [Json.get?, Option.map_eq_none_iff, List.find?_eq_none]
    intro field member same
    obtain rfl := eq_of_beq same
    have known := List.all_eq_true.mp only field member
    simp only [Bool.or_eq_true, List.contains_eq_mem, decide_eq_true_eq] at known
    exact known.elim own absent
  | null | bool | int | float | str | arr => rfl

theorem put_of_absent (absent : name ∉ parts.map (·.1)) : put name a parts = parts ++ [(name, a)] := by
  induction parts with
  | nil => rfl
  | cons part rest ih =>
    rw [List.map_cons, List.mem_cons, not_or] at absent
    rw [put, if_neg (Ne.symm absent.1), ih absent.2, List.cons_append]

theorem plan_eq_map (once : (facets.map (·.name)).Nodup) (identifierField : String)
    (selection : FacetSelection) (active : List (String × Clause)) :
    plan facets identifierField selection active = (facets.filter selection.includes).map
      fun f => (f.name, f.aggregation identifierField active) := by
  have chosen : ((facets.filter selection.includes).map (·.name)).Nodup :=
    (List.filter_sublist.map _).nodup once
  rw [plan]
  generalize facets.filter selection.includes = facets at chosen
  suffices ∀ before : List (String × Aggregation),
      (before.map (·.1) ++ facets.map (·.name)).Nodup →
      facets.foldl (fun acc f => put f.name (f.aggregation identifierField active) acc) before =
        before ++ facets.map fun f => (f.name, f.aggregation identifierField active) from
    this [] chosen
  clear chosen
  induction facets with
  | nil =>
    intro before _
    rw [List.foldl_nil, List.map_nil, List.append_nil]
  | cons f rest ih =>
    intro before distinct
    have absent : f.name ∉ before.map (·.1) := fun member =>
      (List.nodup_append.mp distinct).2.2 _ member _ List.mem_cons_self rfl
    rw [List.foldl_cons, put_of_absent absent, ih, List.map_cons, List.append_assoc]
    · rfl
    · simpa using distinct

end Aggregation

/-! ### Buckets -/

theorem Json.step?_of_get? {json part : Json} {name : String} (found : json.get? name = some part) :
    json.step? name = some part := by
  cases json with
  | obj fields => exact found
  | null | bool | int | float | str | arr => cases found

namespace Facet

open Aggregation (holdersName distinctName)

variable {item part documents : Json}

theorem bucketCount_of_absent {n : Nat} (absent : item.get? holdersName = none)
    (counted : (item.get? "doc_count").bind Json.nat? = some n) : bucketCount item = n := by
  have none_ : ∀ rest, item.pointed? (holdersName :: rest) = none := by
    intro rest
    cases item with
    | obj fields =>
      have stops : Json.step? (.obj fields) holdersName = none := absent
      rw [Json.pointed?, List.foldlM_cons, stops]
      rfl
    | null | bool | int | float | str | arr => cases counted
  rw [bucketCount, none_, none_, Option.none_or, Option.none_or, counted]
  rfl

theorem bucketCount_of_holders {n : Nat} (holders : item.get? holdersName = some part)
    (distinct : part.get? distinctName = some documents)
    (counted : (documents.get? "value").bind Json.nat? = some n) : bucketCount item = n := by
  obtain ⟨value, found, number⟩ := Option.bind_eq_some_iff.mp counted
  have reached : item.pointed? [holdersName, distinctName, "value"] = some value := by
    simp only [Json.pointed?, List.foldlM_cons, List.foldlM_nil, Json.step?_of_get? holders,
      Json.step?_of_get? distinct, Json.step?_of_get? found, Option.bind_eq_bind, Option.bind_some,
      Option.pure_def]
  rw [bucketCount, reached, Option.some_or, Option.bind_some, number]
  rfl

end Facet

/-! ### Documents told apart -/

/-- As many identifiers are found as there are documents with something to find. -/
theorem Valuation.Identifies.length_dedup {field : String} {documents : List Object}
    (identified : v.Identifies field documents) (found : Object → List Object) :
    ((documents.flatMap fun d => (found d).flatMap fun _ => v.values field d).dedup).length =
      (documents.filter fun d => !(found d).isEmpty).length := by
  -- The identifier of a document.
  have own : ∀ d ∈ documents, v.values field d = [(v.values field d).headD ""] := by
    intro d hd
    obtain ⟨id, single⟩ := identified.single d hd
    rw [single]
    rfl
  have heads : (documents.map fun d => (v.values field d).headD "").Nodup := by
    have singles : documents.map (v.values field) =
        (documents.map fun d => (v.values field d).headD "").map fun id => [id] := by
      rw [List.map_map]
      exact List.map_congr_left own
    exact List.Nodup.of_map _ (singles ▸ identified.apart)
  have once : ((documents.filter fun d => !(found d).isEmpty).map
      fun d => (v.values field d).headD "").Nodup :=
    (List.filter_sublist.map _).nodup heads
  have same : ∀ id, id ∈ (documents.flatMap fun d => (found d).flatMap fun _ => v.values field d).dedup ↔
      id ∈ (documents.filter fun d => !(found d).isEmpty).map fun d => (v.values field d).headD "" := by
    intro id
    simp only [List.mem_dedup, List.mem_flatMap, List.mem_map, List.mem_filter, Bool.not_eq_true',
      List.isEmpty_eq_false_iff_exists_mem]
    constructor
    · rintro ⟨d, hd, x, hx, member⟩
      rw [own d hd, List.mem_singleton] at member
      exact ⟨d, ⟨hd, x, hx⟩, member.symm⟩
    · rintro ⟨d, ⟨hd, x, hx⟩, rfl⟩
      refine ⟨d, hd, x, hx, ?_⟩
      rw [own d hd]
      exact List.mem_singleton_self _
  have perm := (List.perm_ext_iff_of_nodup (List.nodup_dedup _) once).mpr same
  rw [perm.length_eq, List.length_map]

theorem Valuation.Identifies.filter {field : String} {documents : List Object}
    (identified : v.Identifies field documents) (keep : Object → Bool) :
    v.Identifies field (documents.filter keep) :=
  ⟨fun d hd => identified.single d (List.mem_of_mem_filter hd),
    (List.filter_sublist.map _).nodup identified.apart⟩

/-! ### Values of a facet -/

namespace Facet

open Aggregation (holdersName distinctName valuesName labelsName isAnswer areAnswered
  exists_of_areAnswered exists_of_isAnswer_terms)

/-- Whether a document has a value of the facet, in itself or in one of its nested objects. -/
def holds (f : Facet) (v : Valuation Object) (value : String) (d : Object) : Bool :=
  match f.nested with
  | some path => (v.objects path d).any (v.term f.field value)
  | none => v.term f.field value d

def countsPath (f : Facet) : List String := if f.nested.isSome then [valuesName] else []

section Answer

variable {f : Facet} {identifierField path value : String} {documents : List Object} {json item : Json}

theorem bucketKey?_of_get? (key : item.get? "key" = some (.str value)) : bucketKey? item = some value := by
  rw [bucketKey?, key]
  rfl

/-! ### Facets of the documents themselves -/

theorem holdersName_not_mem (records : f.countsRecords = f.nested.isSome) (plain : f.nested = none) :
    holdersName ∉ (f.valueParts identifierField).map (·.1) := by
  rw [valueParts, countsHolders, records, plain]
  cases f.labelsSource with
  | none => exact List.not_mem_nil
  | some source =>
    show holdersName ∉ [labelsName]
    decide

theorem filter_of_plain (plain : f.nested = none) :
    (documents.map fun d => (d, d)).filter (fun (_, o) => v.term f.field value o) =
      (documents.filter (f.holds v value)).map fun d => (d, d) := by
  rw [List.filter_map]
  congr 2
  funext d
  simp only [Function.comp_apply, holds, plain]

/-! ### Facets of nested objects -/

theorem holders_mem (records : f.countsRecords = f.nested.isSome) (nested : f.nested = some path) :
    (holdersName, Aggregation.holders [(distinctName, .distinct identifierField)]) ∈
      f.valueParts identifierField := by
  rw [valueParts, countsHolders, records, nested]
  exact List.mem_append_right _ List.mem_cons_self

theorem filter_of_nested (nested : f.nested = some path) :
    (documents.filter fun d => !((v.objects path d).filter (v.term f.field value)).isEmpty) =
      documents.filter (f.holds v value) := by
  congr 1
  funext d
  rw [holds, nested, Bool.eq_iff_iff]
  simp [List.filter_eq_nil_iff]

theorem identifiers_of_nested :
    ((((documents.map fun d => (d, d)).flatMap fun (d, o) =>
        (v.objects path o).map fun x => (d, x)).filter fun (_, o) => v.term f.field value o).map
        fun (d, _) => (d, d)).flatMap (fun (_, o) => v.values identifierField o) =
      documents.flatMap fun d => ((v.objects path d).filter (v.term f.field value)).flatMap
        fun _ => v.values identifierField d := by
  simp only [List.flatMap_map, List.filter_flatMap, List.map_flatMap, List.flatMap_assoc,
    List.filter_map, List.map_map, Function.comp_def]

theorem bucketCount_of_nested (records : f.countsRecords = f.nested.isSome)
    (identified : v.Identifies identifierField documents) (nested : f.nested = some path)
    (answered : areAnswered v (f.valueParts identifierField)
      (((documents.map fun d => (d, d)).flatMap fun (d, o) =>
        (v.objects path o).map fun x => (d, x)).filter fun (_, o) => v.term f.field value o) item = true) :
    bucketCount item = (documents.filter (f.holds v value)).length := by
  obtain ⟨part, holders, answer⟩ := exists_of_areAnswered answered (holders_mem records nested)
  rw [isAnswer] at answer
  obtain ⟨counted, distinct, answer⟩ := exists_of_areAnswered answer List.mem_cons_self
  rw [isAnswer, beq_iff_eq] at answer
  rw [bucketCount_of_holders holders distinct answer, identifiers_of_nested, identified.length_dedup,
    filter_of_nested nested]

/-- What is read from a right answer: each value with the number of documents that have it. -/
theorem exists_buckets (records : f.countsRecords = f.nested.isSome)
    (identified : v.Identifies identifierField documents)
    (answer : isAnswer v (f.counts identifierField) (documents.map fun d => (d, d)) json = true) :
    ∃ counts items, json.at? f.countsPath = some counts ∧ counts.get? "buckets" = some (.arr items) ∧
      ∀ item ∈ items, ∃ value, bucketKey? item = some value ∧
        bucketCount item = (documents.filter (f.holds v value)).length := by
  cases nested : f.nested with
  | none =>
    rw [counts, nested] at answer
    obtain ⟨items, listed, each⟩ := exists_of_isAnswer_terms answer
    refine ⟨json, items, ?_, listed, fun item member => ?_⟩
    · rw [countsPath, nested]
      rfl
    · obtain ⟨value, key, counted, only, -⟩ := each item member
      have unasked := Aggregation.get?_eq_none_of_hasOnly only (by decide)
        (holdersName_not_mem records nested)
      refine ⟨value, bucketKey?_of_get? key, ?_⟩
      rw [bucketCount_of_absent unasked counted, filter_of_plain nested, List.length_map]
  | some path =>
    rw [counts, nested, isAnswer] at answer
    obtain ⟨inner, values, answer⟩ := exists_of_areAnswered answer List.mem_cons_self
    obtain ⟨items, listed, each⟩ := exists_of_isAnswer_terms answer
    refine ⟨inner, items, ?_, listed, fun item member => ?_⟩
    · rw [countsPath, nested]
      simp only [Option.isSome_some, if_true, Json.at?, List.foldlM_cons, List.foldlM_nil, values,
        Option.bind_eq_bind, Option.bind_some, Option.pure_def]
    · obtain ⟨value, key, -, -, answered⟩ := each item member
      exact ⟨value, bucketKey?_of_get? key, bucketCount_of_nested records identified nested answered⟩

end Answer

end Facet

end FacetSearch
