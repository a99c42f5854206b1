import FacetSearch.Proofs.Acceptance.Rearrangement
import FacetSearch.Proofs.Catalogue.Facets
import FacetSearch.Proofs.Query.Clauses
import FacetSearch.Proofs.Query.Counting

/-!
# Queries of rearranged requests

A clause depends on the entries of the criteria, and not on where these stand. Rearranged requests get
the same query but for the order of its clauses: in the query proper, behind the counting, and in what
a document must satisfy to be counted for a facet.
-/

namespace FacetSearch

open Acceptance

variable {dt : DocumentType} {apiHost : String} {catalogue : Catalogue} {c c' : Criteria}
  {extra : List String} {limits : Limits} {pairs pairs' : List (String × String)} {q q' : Query}
  {f : Facet} {active active' : List (String × Clause)}

/-! ### The order of items -/

namespace Json

theorem at?_singleton (name : String) (value : Json) : value.at? [name] = value.get? name := by
  rw [at?_cons]
  cases value.get? name <;> rfl

/-- Two arrays of the same items, each as often, or nothing on either side. -/
def SameItems (a b : Option Json) : Prop :=
  a = none ∧ b = none ∨ ∃ items items', a = some (.arr items) ∧ b = some (.arr items') ∧ items.Perm items'

theorem sameItems_map {xs ys : List α} (perm : xs.Perm ys) (json : α → Json) :
    SameItems (if xs = [] then none else some (.arr (xs.map json)))
      (if ys = [] then none else some (.arr (ys.map json))) := by
  by_cases none_ : xs = []
  · subst none_
    obtain rfl := perm.symm.eq_nil
    exact Or.inl ⟨rfl, rfl⟩
  · have some_ : ys ≠ [] := fun empty => none_ (empty ▸ perm).eq_nil
    rw [if_neg none_, if_neg some_]
    exact Or.inr ⟨_, _, rfl, rfl, perm.map json⟩

/-- Bodies that differ in the order of clauses: of the scored ones, of those behind the counting, and
of those that a document must satisfy to be counted for a facet. -/
structure IsRearranged (body body' : Json) : Prop where
  fixed : ∀ path ∈ [["query", "bool", "filter"], ["query", "bool", "should"],
    ["query", "bool", "minimum_should_match"], ["sort"], ["size"], ["track_total_hits"], ["from"],
    ["search_after"], ["_source"]], body.at? path = body'.at? path
  scored : SameItems (body.at? ["query", "bool", "must"]) (body'.at? ["query", "bool", "must"])
  refined : SameItems (body.at? ["post_filter", "bool", "must"]) (body'.at? ["post_filter", "bool", "must"])
  facets : ((body.get? "aggs").bind fields?).map (·.map (·.1)) =
    ((body'.get? "aggs").bind fields?).map (·.map (·.1))
  counted : ∀ name, body.at? ["aggs", name, "aggs"] = body'.at? ["aggs", name, "aggs"]
  unfiltered : ∀ name, body.at? ["aggs", name, "filter", "match_all"] =
    body'.at? ["aggs", name, "filter", "match_all"]
  filtered : ∀ name, SameItems (body.at? ["aggs", name, "filter", "bool", "must"])
    (body'.at? ["aggs", name, "filter", "bool", "must"])

end Json

/-! ### Facets -/

theorem Aggregation.get?_partsToJson (parts : List (String × Aggregation)) (name : String) :
    (Json.obj (partsToJson parts)).get? name =
      (parts.find? (·.1 == name)).map fun part => part.2.toJson := by
  induction parts with
  | nil => rfl
  | cons part rest ih =>
    rw [partsToJson, Json.get?_cons, ih, List.find?_cons]
    by_cases same : part.1 = name
    · simp [same]
    · simp [beq_eq_false_iff_ne.mpr same, same]

theorem Aggregation.map_fst_partsToJson (parts : List (String × Aggregation)) :
    (partsToJson parts).map (·.1) = parts.map (·.1) := by
  induction parts with
  | nil => rfl
  | cons part rest ih => rw [partsToJson, List.map_cons, List.map_cons, ih]

namespace Facet

theorem otherClauses_perm (perm : active.Perm active') :
    (f.otherClauses active).Perm (f.otherClauses active') := (perm.filter _).map _

theorem get?_crossFilter (f : Facet) (active : List (String × Clause)) :
    (f.crossFilter active).toJson.at? ["match_all"] =
        (if f.otherClauses active = [] then some (.obj []) else none) ∧
      (f.crossFilter active).toJson.at? ["bool", "must"] =
        if f.otherClauses active = [] then none
        else some (.arr ((f.otherClauses active).map Clause.toJson)) := by
  rw [crossFilter]
  cases f.otherClauses active with
  | nil => exact ⟨rfl, rfl⟩
  | cons clause rest =>
    rw [Clause.toJson, Clause.listToJson_eq_map]
    exact ⟨rfl, rfl⟩

theorem at?_aggregation (f : Facet) (identifierField : String) (path : List String)
    (active : List (String × Clause)) :
    (f.aggregation identifierField active).toJson.at? ("filter" :: path) =
        (f.crossFilter active).toJson.at? path ∧
      (f.aggregation identifierField active).toJson.at? ["aggs"] =
        some (.obj (Aggregation.partsToJson [(f.name, f.counts identifierField)])) := by
  rw [aggregation, Aggregation.toJson]
  exact ⟨rfl, rfl⟩

section

variable (f : Facet) (identifierField : String) (perm : active.Perm active')
include perm

theorem unfiltered_perm : (f.aggregation identifierField active).toJson.at? ["filter", "match_all"] =
    (f.aggregation identifierField active').toJson.at? ["filter", "match_all"] := by
  rw [(f.at?_aggregation _ _ _).1, (f.at?_aggregation _ _ _).1, (f.get?_crossFilter _).1,
    (f.get?_crossFilter _).1]
  have none_ : f.otherClauses active = [] ↔ f.otherClauses active' = [] := by
    rw [← List.length_eq_zero_iff, ← List.length_eq_zero_iff, (f.otherClauses_perm perm).length_eq]
  simp only [none_]

theorem filtered_perm :
    Json.SameItems ((f.aggregation identifierField active).toJson.at? ["filter", "bool", "must"])
      ((f.aggregation identifierField active').toJson.at? ["filter", "bool", "must"]) := by
  rw [(f.at?_aggregation _ _ _).1, (f.at?_aggregation _ _ _).1, (f.get?_crossFilter _).2,
    (f.get?_crossFilter _).2]
  exact Json.sameItems_map (f.otherClauses_perm perm) _

end

end Facet

/-! ### Queries -/

namespace Query

structure IsRearranged (q q' : Query) : Prop where
  rest : q' = { q with
    must := q'.must
    refinements := q'.refinements
    aggregations := q'.aggregations }
  must : q.must.Perm q'.must
  refinements : q.refinements.Perm q'.refinements
  counted : ∃ (facets : List Facet) (identifierField : String),
    q.aggregations = facets.map (fun f => (f.name, f.aggregation identifierField q.refinements)) ∧
    q'.aggregations = facets.map fun f => (f.name, f.aggregation identifierField q'.refinements)

theorem aggs_body (q : Query) : q.body.get? "aggs" =
    if q.aggregations = [] then none else some (.obj (Aggregation.partsToJson q.aggregations)) := by
  have other : q.start.1 ≠ "aggs" := by
    rcases q.start_name with same | same <;> rw [same] <;> decide
  rw [body_eq]
  by_cases none_ : q.aggregations = []
  · simp [front, back, other, none_]
  · simp [front, back, other, none_]

section

variable (must : List Clause) (refinements : List (String × Clause))
  (aggregations : List (String × Aggregation)) {name : String}

/-- Of the body three fields depend on the clauses. -/
theorem get?_body_of_ne (query : name ≠ "query") (filter : name ≠ "post_filter") (counts : name ≠ "aggs") :
    { q with must, refinements, aggregations }.body.get? name = q.body.get? name := by
  rw [body_eq, body_eq]
  simp [front, back, query.symm, filter.symm, counts.symm, start, sourceFields]

/-- Of the query proper one field depends on the scored clauses. -/
theorem at?_body_of_ne (other : name ≠ "must") :
    { q with must, refinements, aggregations }.body.at? ["query", "bool", name] =
      q.body.at? ["query", "bool", name] := by
  have query : ∀ q : Query, q.body.get? "query" = some (Clause.single "bool" q.matching) := fun _ => rfl
  have bool : ∀ q : Query, (Clause.single "bool" q.matching).get? "bool" = some q.matching := fun _ => rfl
  rw [Json.at?_cons, Json.at?_cons, query, query, Option.bind_some, Option.bind_some, Json.at?_cons,
    Json.at?_cons, bool, bool, Option.bind_some, Option.bind_some]
  simp [matching, other.symm]

theorem at?_body_fixed : ∀ path ∈ [["query", "bool", "filter"], ["query", "bool", "should"],
    ["query", "bool", "minimum_should_match"], ["sort"], ["size"], ["track_total_hits"], ["from"],
    ["search_after"], ["_source"]],
    { q with must, refinements, aggregations }.body.at? path = q.body.at? path := by
  simp only [List.mem_cons, List.not_mem_nil, or_false]
  rintro path (rfl | rfl | rfl | rfl | rfl | rfl | rfl | rfl | rfl)
  · exact at?_body_of_ne _ _ _ (by decide)
  · exact at?_body_of_ne _ _ _ (by decide)
  · exact at?_body_of_ne _ _ _ (by decide)
  all_goals rw [Json.at?_singleton, Json.at?_singleton]
  all_goals exact get?_body_of_ne _ _ _ (by decide) (by decide) (by decide)

end

theorem at?_body_aggs {facets : List Facet} {identifierField : String}
    (planned : q.aggregations = facets.map fun f => (f.name, f.aggregation identifierField active))
    (name : String) (path : List String) : q.body.at? ("aggs" :: name :: path) =
      (facets.find? (·.name == name)).bind fun f => (f.aggregation identifierField active).toJson.at? path := by
  rw [Json.at?_cons, aggs_body]
  by_cases none_ : facets = []
  · subst none_
    rw [List.map_nil] at planned
    rw [if_pos planned]
    rfl
  · have some_ : q.aggregations ≠ [] := by
      rw [planned]
      exact fun empty => none_ (List.map_eq_nil_iff.mp empty)
    have found : (facets.map fun f => (f.name, f.aggregation identifierField active)).find? (·.1 == name) =
        (facets.find? (·.name == name)).map fun f => (f.name, f.aggregation identifierField active) :=
      List.find?_map
    rw [if_neg some_, Option.bind_some, Json.at?_cons, Aggregation.get?_partsToJson, planned, found]
    cases facets.find? (·.name == name) with
    | none => rfl
    | some f => rfl

theorem facetNames_body {facets : List Facet} {identifierField : String}
    (planned : q.aggregations = facets.map fun f => (f.name, f.aggregation identifierField active)) :
    ((q.body.get? "aggs").bind Json.fields?).map (·.map (·.1)) =
      if facets = [] then none else some (facets.map (·.name)) := by
  rw [aggs_body, planned]
  cases facets with
  | nil => rfl
  | cons f rest =>
    simp only [List.map_cons, reduceCtorEq, if_false, Option.bind_some, Json.fields?, Option.map_some,
      Aggregation.map_fst_partsToJson, List.map_map]
    rfl

/-- What holds of a facet's counts whatever the order of the clauses holds of those in the bodies. -/
theorem at?_aggs_rel {facets : List Facet} {identifierField : String}
    (planned : q.aggregations = facets.map fun f => (f.name, f.aggregation identifierField active))
    (planned' : q'.aggregations = facets.map fun f => (f.name, f.aggregation identifierField active'))
    {path : List String} {R : Option Json → Option Json → Prop} (absent : R none none)
    (present : ∀ f : Facet, R ((f.aggregation identifierField active).toJson.at? path)
      ((f.aggregation identifierField active').toJson.at? path)) (name : String) :
    R (q.body.at? ("aggs" :: name :: path)) (q'.body.at? ("aggs" :: name :: path)) := by
  rw [at?_body_aggs planned, at?_body_aggs planned']
  cases facets.find? (·.name == name) with
  | none => exact absent
  | some f => exact present f

theorem IsRearranged.body (rearranged : q.IsRearranged q') : q.body.IsRearranged q'.body := by
  obtain ⟨rest, must, refinements, facets, identifierField, planned, planned'⟩ := rearranged
  exact {
    fixed := by
      rw [rest]
      exact fun path member => (at?_body_fixed _ _ _ path member).symm
    scored := by
      rw [must_body, must_body]
      exact Json.sameItems_map must _
    refined := by
      rw [post_filter_body, post_filter_body]
      exact Json.sameItems_map refinements _
    facets := by
      rw [facetNames_body planned, facetNames_body planned']
    counted := at?_aggs_rel planned planned' rfl fun f => by
      rw [(f.at?_aggregation _ [] _).2, (f.at?_aggregation _ [] _).2]
    unfiltered := at?_aggs_rel planned planned' rfl fun f => f.unfiltered_perm _ refinements
    filtered := at?_aggs_rel planned planned' (Or.inl ⟨rfl, rfl⟩) fun f => f.filtered_perm _ refinements }

end Query

/-! ### Criteria of the same entries -/

section

variable (placed : c.IsPlaced dt) (placed' : c'.IsPlaced dt)
  (same : ∀ name, c.entry? name = c'.entry? name)
include placed placed' same

theorem Criteria.search_perm : c.search.Perm c'.search := by
  have once : ∀ b : Criteria, b.IsPlaced dt → b.search.Nodup :=
    fun b listed => List.Nodup.of_map _ listed.searchOnce
  rw [List.perm_ext_iff_of_nodup (once c placed) (once c' placed')]
  have within : ∀ {b b' : Criteria}, b.IsPlaced dt → b'.IsPlaced dt →
      (∀ name, b.entry? name = b'.entry? name) → ∀ e ∈ b.search, e ∈ b'.search := by
    intro b b' listed listed' agree
    rw [listed.forall_search]
    intro p hp query e found
    rw [agree, listed'.entry?_search hp query] at found
    exact (Entry.named?_eq_some found).1
  exact fun e => ⟨within placed placed' same e, within placed' placed (fun name => (same name).symm) e⟩

theorem Catalogue.answered_perm : (answered c).Perm (answered c') := by
  have clause : ∀ e : Entry, e.clause? c = e.clause? c' := by
    intro e
    rw [Entry.clause?, Entry.clause?]
    apply Parameter.clause?_congr
    · simp only [Criteria.searchedFields, Criteria.listed, Criteria.values, same]
    · intro toggle _
      simp only [Criteria.flag, Criteria.get?, same]
  rw [answered, answered]
  simp only [clause]
  exact (Criteria.search_perm placed placed' same).filterMap _

theorem Catalogue.compile_rearranged (h : catalogue.IsFor dt apiHost) (promoted : List String)
    (access : Access) : ((catalogue.compile c promoted).under access).IsRearranged
      ((catalogue.compile c' promoted).under access) := by
  have clauses := answered_perm placed placed' same
  have refinements : ((answered c).filterMap fun r => (catalogue.refined? r.1).map fun f => (f, r.2)).Perm
      ((answered c').filterMap fun r => (catalogue.refined? r.1).map fun f => (f, r.2)) :=
    clauses.filterMap _
  have facets : c.facets = c'.facets := by simp only [Criteria.facets, Criteria.get?, same]
  have once : (catalogue.facets.map (·.name)).Nodup := by
    rw [Catalogue.facets, h.definition]
    exact dt.facets_nodup
  refine ⟨?_, ?_, refinements, catalogue.facets.filter c.facets.includes,
    catalogue.definition.identifierField, ?_, ?_⟩
  · have subject : catalogue.promotionSubject? c = catalogue.promotionSubject? c' := by
      simp only [promotionSubject?, Criteria.listed, Criteria.values, same]
    have order : catalogue.directives c = catalogue.directives c' := by
      simp only [directives, Criteria.sort?, Criteria.get?, same]
    have included : c.included = c'.included := by
      simp only [Criteria.included, Criteria.listed, Criteria.values, same]
    have excluded : c.excluded = c'.excluded := by
      simp only [Criteria.excluded, Criteria.listed, Criteria.values, same]
    have left : catalogue.leftOut c = catalogue.leftOut c' := by
      rw [leftOut, leftOut, included, excluded]
    simp only [compile, Query.under, subject, order, included, left, Criteria.offset, Criteria.size,
      Criteria.searchAfter?, Criteria.number?, Criteria.get?, same]
  · exact (clauses.filter _).map _
  · exact Aggregation.plan_eq_map once _ _ _
  · rw [facets]
    exact Aggregation.plan_eq_map once _ _ _

end

/-- Requests that differ in the order of independent parameters, and in blank values, are refused for
one kind of offence or accepted with the same values, and ask the engine for the same. -/
theorem Catalogue.accept_compile_rearranged {settings : Settings}
    (built : Service.buildCatalogue settings dt = .ok catalogue)
    (rearranged : IsRearranged catalogue pairs pairs') :
    Matched (fun c c' => (∀ name, c.get? name = c'.get? name) ∧
        ∀ (promoted : List String) (access : Access),
          ((catalogue.compile c promoted).under access).body.IsRearranged
            ((catalogue.compile c' promoted).under access).body)
      (catalogue.accept extra limits pairs) (catalogue.accept extra limits pairs') := by
  have h := Service.isFor_of_buildCatalogue built
  refine (accept_rearranged h rearranged).mono ?_
  rintro c c' - - ⟨placed, placed', same⟩
  exact ⟨fun name => Criteria.get?_congr (same name), fun promoted access =>
    (compile_rearranged placed placed' same h promoted access).body⟩

/-! ### Tickets of two owners -/

theorem exists_sharedTickets :
    ∃ catalogue c, Service.buildCatalogue Settings.forTesting .ticket = .ok catalogue ∧
      catalogue.accept [] {} [("owner", "kari"), ("viewedBy", "ada"), ("owner", "siri")] = .ok c ∧
      catalogue.resolve "owner" ≠ catalogue.resolve "viewedBy" ∧
      (catalogue.resolve "type").isUnknown = false ∧ c.get? "owner" = some "kari,siri" := by
  have evaluated : passes (Service.buildCatalogue Settings.forTesting .ticket) (fun catalogue =>
      passes (catalogue.accept [] {} [("owner", "kari"), ("viewedBy", "ada"), ("owner", "siri")])
        fun c => decide (catalogue.resolve "owner" ≠ catalogue.resolve "viewedBy" ∧
          (catalogue.resolve "type").isUnknown = false ∧ c.get? "owner" = some "kari,siri")) = true := by
    rw [Service.buildCatalogue_eq]
    decide +kernel
  obtain ⟨catalogue, built, outcome⟩ := exists_of_passes evaluated
  obtain ⟨c, accepted, found⟩ := exists_of_passes outcome
  exact ⟨catalogue, c, built, accepted, of_decide_eq_true found⟩

/-- The viewer may come first, and a blank type anywhere. -/
theorem accept_compile_rearranged_sharedTickets :
    ∃ catalogue c c', Service.buildCatalogue Settings.forTesting .ticket = .ok catalogue ∧
      catalogue.accept [] {} [("owner", "kari"), ("viewedBy", "ada"), ("owner", "siri")] = .ok c ∧
      catalogue.accept [] {} [("viewedBy", "ada"), ("type", " "), ("owner", "kari"), ("owner", "siri")] =
        .ok c' ∧
      c'.get? "owner" = some "kari,siri" ∧
      (catalogue.compile c []).body.IsRearranged (catalogue.compile c' []).body := by
  obtain ⟨catalogue, c, built, accepted, apart, known, owners⟩ := exists_sharedTickets
  have swapped : IsRearranged catalogue
      ([] ++ ("owner", "kari") :: ("viewedBy", "ada") :: [("owner", "siri")])
      ([] ++ ("viewedBy", "ada") :: ("owner", "kari") :: [("owner", "siri")]) :=
    IsRearranged.swap apart
  have filled : IsRearranged catalogue ([("viewedBy", "ada")] ++ [("owner", "kari"), ("owner", "siri")])
      ([("viewedBy", "ada")] ++ ("type", " ") :: [("owner", "kari"), ("owner", "siri")]) :=
    IsRearranged.blank known (by decide)
  have matched : Matched _ (catalogue.accept [] {} _) (catalogue.accept [] {} _) :=
    Catalogue.accept_compile_rearranged built (swapped.trans filled)
  obtain ⟨c', accepted', same, bodies⟩ := matched.exists_ok accepted
  exact ⟨catalogue, c, c', built, accepted, accepted', (same "owner").symm.trans owners, bodies [] .denied⟩

end FacetSearch
