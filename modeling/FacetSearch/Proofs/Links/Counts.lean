import FacetSearch.Proofs.Clause.Meaning
import FacetSearch.Proofs.Links.Refinement
import FacetSearch.Proofs.Query.Counting
import FacetSearch.Proofs.Query.Hits

/-!
# What the link of a counted value finds

A facet counts the documents that satisfy every refinement but its own, for each value that they have.
The link of a value sets the facet's parameter to it and leaves every other clause as it is, so it finds
exactly the documents counted.
-/

namespace FacetSearch

open Acceptance

variable {Object : Type} {i : Interpretation Object} {v : Valuation Object} {d : Object}
  {dt : DocumentType} {apiHost : String} {catalogue : Catalogue} {c : Criteria} {e : Entry}
  {p : Parameter} {f : Facet} {extra : List String} {limits : Limits} {pairs : List (String × String)}
  {value : String}

/-! ### The refined search -/

section

variable (hp : p ∈ dt.definition.allParameters) (placed : c.IsPlaced dt)
include hp placed

theorem Criteria.mem_search_refined (search : p.scope ≠ .control) :
    e ∈ (c.refined p value).search ↔ e = ⟨p, value⟩ ∨ e ∈ c.search ∧ e.name ≠ p.name := by
  have own : ∀ e ∈ c.search, e.name = p.name → ({ e with value := value } : Entry) = ⟨p, value⟩ := by
    intro e he same
    rw [DocumentType.eq_of_name (placed.listed e (mem_entries.mpr (Or.inl he))) hp same]
  rw [search_refined hp placed search]
  by_cases present : ∃ e ∈ c.search, e.name = p.name
  · rw [Entry.upsert_eq_map placed.searchOnce present, List.mem_map]
    constructor
    · rintro ⟨e', he, rfl⟩
      split
      · rename_i same
        exact Or.inl (own e' he same)
      · rename_i other
        exact Or.inr ⟨he, other⟩
    · rintro (rfl | ⟨he, other⟩)
      · obtain ⟨e', he, same⟩ := present
        exact ⟨e', he, by rw [if_pos same, own e' he same]⟩
      · exact ⟨e, he, if_neg other⟩
  · have absent : ∀ e ∈ c.search, e.name ≠ p.name := fun e he same => present ⟨e, he, same⟩
    rw [Entry.upsert_of_absent absent, List.mem_append, List.mem_singleton]
    exact ⟨fun found => found.symm.imp_right fun he => ⟨he, absent e he⟩,
      fun found => (found.imp_right And.left).symm⟩

theorem Entry.admits_refined (hf : f ∈ dt.definition.facets) (refines : f.IsRefinedBy p)
    (he : e ∈ c.search) : e.Admits i (c.refined p value) d ↔ e.Admits i c d := by
  have listed := placed.listed e (Criteria.mem_entries.mpr (Or.inl he))
  have kept : ∀ name, ¬ Control.Positional name → name ≠ p.name →
      Criteria.entry? (c.refined p value) name = c.entry? name := by
    intro name other apart
    rw [(Criteria.entry?_refined value placed hp).2.2 name (fun same => other (Or.inl same))
      (fun same => other (Or.inr same)), Criteria.set, Criteria.entry?_modifyFor_of_ne apart]
  have fields : (c.refined p value).searchedFields = c.searchedFields := by
    have apart : Control.fields ≠ p.name := by
      have known : ∃ q ∈ Control.parameters, q.name = Control.fields ∧ q.scope = .control := by decide
      obtain ⟨q, hq, name, control⟩ := known
      exact name ▸ (name_of_isRefinedBy hp refines (dt.mem_of_control hq) control).symm
    have same : Criteria.entry? (c.refined p value) Control.fields = c.entry? Control.fields :=
      kept _ (Criteria.not_positional (by decide) (by decide)) apart
    rw [Criteria.searchedFields, Criteria.searchedFields, Criteria.listed, Criteria.listed,
      Criteria.values, Criteria.values, same]
  have flag : ∀ toggle, e.parameter.toggle? = some toggle →
      (c.refined p value).flag toggle = c.flag toggle := by
    intro toggle switch
    have apart : toggle ≠ p.name := by
      rintro rfl
      exact (DocumentType.apart_of_facet hf listed).2 (refines.name ▸ switch)
    rw [Criteria.flag, Criteria.flag, Criteria.get?, Criteria.get?, kept toggle
      (Parameter.not_positional_toggle (DocumentType.hasFreeToggle_of_mem listed) switch) apart]
  rw [Admits, Admits, Entry.clause?, Entry.clause?, Parameter.clause?_congr fields flag]

end

/-- The value asks for a field of the document, or of one of its nested objects, that has it. -/
theorem Entry.admits_own (refines : f.IsRefinedBy p) (word : IsOwnWord p value) :
    (Entry.mk p value).Admits v.toInterpretation c d ↔ f.holds v value d = true := by
  have sought : p.sought value = [value] := by
    have elements : p.elements value = [value] := elements_of_isOwnWord refines word
    rw [Parameter.sought, elements]
    simpa using word.filled
  have places : (∃ o ∈ p.places v.toInterpretation d, v.term f.field value o = true) ↔
      f.holds v value d = true := by
    rw [Parameter.places, refines.nested, Facet.holds]
    cases f.nested with
    | none => simp
    | some path => simp [List.any_eq_true]
  have filled : p.fields ≠ [] := by
    rw [refines.fields]
    exact List.cons_ne_nil _ _
  have expressed : Clause.Expresses v.toInterpretation d (p.clause? value c) (p.sought value ≠ []) _ :=
    Parameter.expresses_compared filled refines.shape (by rw [refines.operator]; rfl)
      (by rw [refines.kind]; rfl)
  obtain ⟨asked, meaning⟩ := expressed
  rw [sought, refines.operator, refines.fields, refines.kind] at meaning
  simp only [Operator.Combined, List.mem_singleton, exists_eq_left, Kind.compares, places] at meaning
  rw [sought] at asked
  obtain ⟨clause, built⟩ := Option.isSome_iff_exists.mp (asked.mpr (List.cons_ne_nil _ _))
  rw [← meaning clause built]
  constructor
  · exact fun admits => admits clause built
  · intro holds clause' built'
    obtain rfl := Option.some.inj (built.symm.trans built')
    exact holds

theorem refined?_eq_iff (h : catalogue.IsFor dt apiHost) (hp : p ∈ dt.definition.allParameters)
    (hf : f ∈ dt.definition.facets) (refines : f.IsRefinedBy p)
    (listed : e.parameter ∈ dt.definition.allParameters) :
    catalogue.refined? e = some f.name ↔ e.name = p.name := by
  rw [Catalogue.refined?, Option.filter_eq_some_iff]
  constructor
  · rintro ⟨bound, -⟩
    exact ((DocumentType.apart_of_facet hf listed).1 bound).trans refines.name.symm
  · intro same
    have known : (catalogue.facet? f.name).isSome = true := by
      rw [Catalogue.facet?, List.find?_isSome]
      exact ⟨f, show f ∈ catalogue.definition.facets from h.definition ▸ hf, Text.sameWord_iff.mpr rfl⟩
    rw [DocumentType.eq_of_name listed hp same]
    exact ⟨refines.facet, known⟩

/-- The hits of the refined search are the documents that the facet counts for the value. -/
theorem hits_refined (h : catalogue.IsFor dt apiHost) (hp : p ∈ dt.definition.allParameters)
    (placed : c.IsPlaced dt) (hf : f ∈ dt.definition.facets) (refines : f.IsRefinedBy p)
    (word : IsOwnWord p value) (access : Access) (promoted promoted' : List String)
    (documents : List Object) :
    ((catalogue.compile (c.refined p value) promoted').under access).hits v.toInterpretation documents =
      ((documents.filter (((catalogue.compile c promoted).under access).isMatch v.toInterpretation)).filter
        ((f.crossFilter (catalogue.compile c promoted).refinements).holds v.toInterpretation)).filter
        (f.holds v value) := by
  have search : p.scope ≠ .control := by
    rw [refines.scope]
    decide
  rw [Query.hits, List.filter_filter, List.filter_filter]
  apply List.filter_congr
  intro d _
  have regroup : ∀ {x y z : Prop}, (x ∧ y) ∧ z ↔ (z ∧ y) ∧ x :=
    ⟨fun ⟨⟨x, y⟩, z⟩ => ⟨⟨z, y⟩, x⟩, fun ⟨⟨z, y⟩, x⟩ => ⟨⟨x, y⟩, z⟩⟩
  rw [Bool.eq_iff_iff, Catalogue.isHit_compile, Bool.and_eq_true, Bool.and_eq_true, regroup,
    Catalogue.isMatch_crossFilter, and_assoc]
  refine and_congr_right fun _ => ?_
  rw [← Entry.admits_own (c := c.refined p value) refines word]
  constructor
  · intro admits
    refine ⟨fun e he other => ?_, admits _ ((Criteria.mem_search_refined hp placed search).mpr (Or.inl rfl))⟩
    have listed := placed.listed e (Criteria.mem_entries.mpr (Or.inl he))
    have name : e.name ≠ p.name := fun same => other ((refined?_eq_iff h hp hf refines listed).mpr same)
    exact (Entry.admits_refined hp placed hf refines he).mp
      (admits e ((Criteria.mem_search_refined hp placed search).mpr (Or.inr ⟨he, name⟩)))
  · rintro ⟨others, own⟩ e he
    rcases (Criteria.mem_search_refined hp placed search).mp he with rfl | ⟨he, name⟩
    · exact own
    · have listed := placed.listed e (Criteria.mem_entries.mpr (Or.inl he))
      exact (Entry.admits_refined hp placed hf refines he).mpr
        (others e he fun bound => name ((refined?_eq_iff h hp hf refines listed).mp bound))

/-! ### Counted values of a page -/

/-- A right reply has the counts of a selected facet, of the documents that the facet looks at. -/
theorem exists_counts (h : catalogue.IsFor dt apiHost) (hf : f ∈ dt.definition.facets)
    (refines : f.IsRefinedBy p) (selected : c.facets.includes f = true) {promoted : List String}
    {access : Access} {documents : List Object} {reply : EngineReply}
    (identified : v.Identifies dt.definition.identifierField documents)
    (right : ((catalogue.compile c promoted).under access).isReply v documents reply = true) :
    ∃ aggregations counts items, reply.aggregations = some aggregations ∧
      f.countsIn? aggregations = some counts ∧ counts.get? "buckets" = some (.arr items) ∧
      ∀ item ∈ items, ∃ value, Facet.bucketKey? item = some value ∧ Facet.bucketCount item =
        (((documents.filter (((catalogue.compile c promoted).under access).isMatch
          v.toInterpretation)).filter ((f.crossFilter (catalogue.compile c promoted).refinements).holds
            v.toInterpretation)).filter (f.holds v value)).length := by
  have planned : ((catalogue.compile c promoted).under access).aggregations =
      (catalogue.facets.filter c.facets.includes).map fun f => (f.name,
        f.aggregation dt.definition.identifierField (catalogue.compile c promoted).refinements) := by
    have once : (catalogue.facets.map (·.name)).Nodup := by
      rw [Catalogue.facets, h.definition]
      exact dt.facets_nodup
    rw [← h.definition]
    exact Aggregation.plan_eq_map once _ _ _
  have asked : (f.name, f.aggregation dt.definition.identifierField
      (catalogue.compile c promoted).refinements) ∈
      ((catalogue.compile c promoted).under access).aggregations := by
    rw [planned, Catalogue.facets, h.definition]
    exact List.mem_map_of_mem (List.mem_filter.mpr ⟨hf, selected⟩)
  rw [Query.isReply, Bool.and_eq_true] at right
  cases replied : reply.aggregations with
  | none =>
    rw [replied] at right
    rw [List.isEmpty_iff.mp right.2] at asked
    cases asked
  | some aggregations =>
    rw [replied] at right
    obtain ⟨own, outer, answer⟩ := Aggregation.exists_of_areAnswered right.2 asked
    rw [Facet.aggregation, Aggregation.isAnswer] at answer
    obtain ⟨inner, filtered, answer⟩ := Aggregation.exists_of_areAnswered answer List.mem_cons_self
    rw [List.filter_map] at answer
    obtain ⟨counts, items, reached, listed, each⟩ := Facet.exists_buckets refines.records
      ((identified.filter _).filter _) answer
    refine ⟨aggregations, counts, items, rfl, ?_, listed, each⟩
    rw [Facet.countsIn?, ← Facet.countsPath, Json.at?, List.foldlM_append, List.foldlM_cons, outer,
      Option.bind_eq_bind, Option.bind_some, List.foldlM_cons, filtered, Option.bind_eq_bind,
      Option.bind_some, List.foldlM_nil, Option.pure_def, Option.bind_some]
    exact reached

/-- The page shows a value for each bucket of a reply, with its count and its link. -/
theorem exists_shown (linker : Linker) {aggregations counts : Json} {items : List Json}
    (found : f.countsIn? aggregations = some counts) (listed : counts.get? "buckets" = some (.arr items))
    (keyed : ∀ item ∈ items, ∃ value, Facet.bucketKey? item = some value) :
    ∃ buckets, f.buckets? linker aggregations = some buckets ∧
      items.map Facet.bucketKey? = buckets.map (fun b => some b.key) ∧
      ∀ b ∈ buckets, b.link = some (linker.refined f.parameter b.key).text ∧
        ∃ item ∈ items, Facet.bucketKey? item = some b.key ∧ b.count = Facet.bucketCount item := by
  refine ⟨items.filterMap (f.bucket? linker), ?_, ?_, ?_⟩
  · rw [Facet.buckets?, found, Option.bind_eq_bind, Option.bind_some, listed]
    rfl
  · clear listed
    induction items with
    | nil => rfl
    | cons item rest ih =>
      obtain ⟨value, key⟩ := keyed item List.mem_cons_self
      have shown : ∃ b, f.bucket? linker item = some b ∧ b.key = value := by
        rw [Facet.bucket?, key]
        exact ⟨_, rfl, rfl⟩
      obtain ⟨b, shown, rfl⟩ := shown
      rw [List.map_cons, key, List.filterMap_cons_some shown, List.map_cons,
        ih fun other member => keyed other (List.mem_cons_of_mem item member)]
  · intro b member
    obtain ⟨item, hi, made⟩ := List.mem_filterMap.mp member
    obtain ⟨key, read, rfl⟩ := Option.map_eq_some_iff.mp made
    exact ⟨rfl, item, hi, read, rfl⟩

/-- Every counted value of a selected facet whose value is a word of its own has a link that is accepted
as far as the required names allow, and whoever may see as much finds there as many records as were
counted. -/
theorem Catalogue.count_eq_hits {settings : Settings}
    (built : Service.buildCatalogue settings dt = .ok catalogue) (absolute : IsAbsolute settings.apiHost)
    (bounded : limits.maxSize ≤ limits.window) (accepted : catalogue.accept extra limits pairs = .ok c)
    (plain : IsPlain c) (base : Url) (context engine : String) (v : Valuation Object)
    {documents : List Object} (identified : v.Identifies dt.definition.identifierField documents)
    (access : Access) (promoted : List String) {response : Json} {reply : EngineReply}
    (read : EngineReply.ofJson? response = some reply)
    (right : ((catalogue.compile c promoted).under access).isReply v documents reply = true) :
    ∃ page, catalogue.assemble (Linker.ofCriteria base c) context engine
        ((catalogue.compile c promoted).under access) response = .ok page ∧
      ∀ f ∈ catalogue.facets, c.facets.includes f = true →
        ∃ p ∈ dt.definition.allParameters, f.IsRefinedBy p ∧ ∃ counts items buckets,
          reply.aggregations.bind f.countsIn? = some counts ∧
          counts.get? "buckets" = some (.arr items) ∧ (f.name, buckets) ∈ page.facets ∧
          items.map Facet.bucketKey? = buckets.map (fun b => some b.key) ∧
          ∀ b ∈ buckets, IsOwnWord p b.key → ∃ link : Url,
            link = (Linker.ofCriteria base c).refined f.parameter b.key ∧
            b.link = some link.text ∧ base.Carries link.text link.pairs ∧
            ((∃ again, catalogue.accept extra limits link.pairs = .ok again) ↔
              KeepsRequired extra c ∧ Control.searchAfter ∉ extra) ∧
            ∀ again, catalogue.accept extra limits link.pairs = .ok again → ∀ promoted',
              (((catalogue.compile again promoted').under access).hits v.toInterpretation
                documents).length = b.count := by
  have h := Service.isFor_of_buildCatalogue built
  have sendable := isSendable_of_accept h accepted
  have offset := contains_of_accept h accepted (offset_required h extra) (by decide) (by decide)
  have size : c.size ≤ limits.window := by
    have bounds := (checkBounds_eq_ok_iff.mp (shape_of_accept h accepted).2.2.2.2).1
    rw [sizeIssue?, ite_eq_right_iff] at bounds
    refine le_trans (Nat.le_of_not_lt fun large => ?_) bounded
    cases bounds large
  refine ⟨catalogue.pageOf (Linker.ofCriteria base c) context ((catalogue.compile c promoted).under access)
    reply, by rw [assemble, read], ?_⟩
  intro f member selected
  have hf : f ∈ dt.definition.facets := h.definition ▸ member
  obtain ⟨p, hp, refines⟩ := DocumentType.exists_isRefinedBy hf
  have search : p.scope ≠ .control := by
    rw [refines.scope]
    decide
  obtain ⟨aggregations, counts, items, replied, found, listed, counted⟩ :=
    exists_counts h hf refines selected identified right
  obtain ⟨buckets, shown, keys, each⟩ := exists_shown (Linker.ofCriteria base c) found listed
    fun item hi => (counted item hi).imp fun _ => And.left
  refine ⟨p, hp, refines, counts, items, buckets, by rw [replied, Option.bind_some, found], listed, ?_, keys,
    ?_⟩
  · show (f.name, buckets) ∈ (reply.aggregations.map (catalogue.bucketsOf (Linker.ofCriteria base c))).getD []
    rw [replied]
    exact List.mem_filterMap.mpr ⟨f, member, by rw [shown]; rfl⟩
  · intro b hb word
    obtain ⟨link, item, hi, key, count⟩ := each b hb
    have carried := Linker.pairs_refined b.key sendable.placed hp base search offset
    have readable := isReadable_of_accept h accepted absolute.single
      fun e he isDecoded => (plain e he isDecoded).1
    have decides := accept_refined_iff h hp refines word accepted readable
    rw [refines.name] at carried
    refine ⟨_, rfl, link, Url.carries_text ⟨_, rfl⟩, ?_, fun again followed promoted' => ?_⟩
    · rw [carried, decides]
      exact and_congr_right fun _ => and_iff_left size
    · rw [carried] at followed
      obtain ⟨keeps, free, -⟩ := decides.mp ⟨again, followed⟩
      rw [accept_refined h hp refines word absolute accepted plain keeps free size] at followed
      obtain rfl := Except.ok.inj followed
      obtain ⟨value, own, number⟩ := counted item hi
      obtain rfl := Option.some.inj (key.symm.trans own)
      rw [hits_refined h hp sendable.placed hf refines word access promoted promoted' documents, count,
        number]

/-! ### Import candidates of two organisations -/

/-- Objects given by their fields, as far as terms look at them. -/
def Valuation.ofFields : Valuation (List (String × String)) where
  toInterpretation := Interpretation.ofFields
  values field o := (o.filter (·.1 == field)).map (·.2)
  term_eq field value o := by
    rw [Bool.eq_iff_iff]
    simp [Interpretation.ofFields]

def candidate (id type : String) (organizations : List String) : List (String × String) :=
  [("identifier.keyword", id), ("publicationInstance.type.keyword", type)] ++
    organizations.map fun organization => ("organizations.id.keyword", organization)

def candidates : List (List (String × String)) := [
  candidate "1" "A" ["https://o.test/1"],
  candidate "2" "A" ["https://o.test/1", "https://o.test/2"],
  candidate "3" "B" ["https://o.test/1"],
  candidate "4" "A" ["https://o.test/2"]]

def ofFirstOrganization : Access :=
  .granted ⟨[.nested "organizations" (.term "organizations.id.keyword" "https://o.test/1")]⟩

/-- The organisations of candidates of type A that may be seen, where those of the second are asked
for. -/
def countedOrganizations : Json :=
  let bucket (key : String) (count : Nat) : Json := .obj [("key", .str key), ("doc_count", .nat count),
    ("labels", .obj []), ("parent", .obj [("documents", .obj [("value", .nat count)])])]
  .obj [("hits", .obj [("total", .nat 1)]), ("aggregations", .obj [("topLevelOrganization",
    .obj [("topLevelOrganization", .obj [("values", .obj [("buckets",
      .arr [bucket "https://o.test/1" 2, bucket "https://o.test/2" 1])])])])])]

theorem exists_organizationPage : ∃ catalogue c reply page,
    Service.buildCatalogue Settings.forTesting .importCandidate = .ok catalogue ∧
    catalogue.accept [] {} [("type", "A"), ("organization", "https://o.test/2"),
      ("aggregation", "topLevelOrganization")] = .ok c ∧ IsPlain c ∧
    c.facets = .only ["topLevelOrganization"] ∧
    EngineReply.ofJson? countedOrganizations = some reply ∧
    ((catalogue.compile c []).under ofFirstOrganization).isReply Valuation.ofFields candidates reply =
      true ∧
    catalogue.assemble (Linker.ofCriteria .ofTickets c) "" ""
      ((catalogue.compile c []).under ofFirstOrganization) countedOrganizations = .ok page ∧
    page.facets.map (fun facet => (facet.1, facet.2.map fun b => (b.key, b.count))) =
      [("topLevelOrganization", [("https://o.test/1", 2), ("https://o.test/2", 1)])] := by
  have evaluated : passes (Service.buildCatalogue Settings.forTesting .importCandidate) (fun catalogue =>
      passes (catalogue.accept [] {} [("type", "A"), ("organization", "https://o.test/2"),
        ("aggregation", "topLevelOrganization")]) fun c =>
        (EngineReply.ofJson? countedOrganizations).any fun reply =>
          passes (catalogue.assemble (Linker.ofCriteria .ofTickets c) "" ""
            ((catalogue.compile c []).under ofFirstOrganization) countedOrganizations) fun page =>
          decide (IsPlain c ∧ c.facets = .only ["topLevelOrganization"] ∧
            ((catalogue.compile c []).under ofFirstOrganization).isReply Valuation.ofFields candidates
              reply = true ∧
            page.facets.map (fun facet => (facet.1, facet.2.map fun b => (b.key, b.count))) =
              [("topLevelOrganization", [("https://o.test/1", 2), ("https://o.test/2", 1)])])) = true := by
    rw [Service.buildCatalogue_eq]
    decide +kernel
  obtain ⟨catalogue, built, outcome⟩ := exists_of_passes evaluated
  obtain ⟨c, accepted, outcome⟩ := exists_of_passes outcome
  obtain ⟨reply, read, outcome⟩ := (Option.any_eq_true _ _).mp outcome
  obtain ⟨page, assembled, found⟩ := exists_of_passes outcome
  obtain ⟨plain, facets, right, counts⟩ := of_decide_eq_true found
  exact ⟨catalogue, c, reply, page, built, accepted, plain, facets, read, right, assembled, counts⟩

/-- The link of the first organisation finds the two candidates that were counted for it. -/
theorem count_eq_hits_firstOrganization :
    ∃ catalogue c page buckets, ∃ b ∈ buckets, ∃ (link : Url) (again : Criteria),
      Service.buildCatalogue Settings.forTesting .importCandidate = .ok catalogue ∧
      catalogue.accept [] {} [("type", "A"), ("organization", "https://o.test/2"),
        ("aggregation", "topLevelOrganization")] = .ok c ∧
      catalogue.assemble (Linker.ofCriteria .ofTickets c) "" ""
        ((catalogue.compile c []).under ofFirstOrganization) countedOrganizations = .ok page ∧
      ("topLevelOrganization", buckets) ∈ page.facets ∧ b.key = "https://o.test/1" ∧
      link = (Linker.ofCriteria .ofTickets c).refined "topLevelOrganization" "https://o.test/1" ∧
      b.link = some link.text ∧ catalogue.accept [] {} link.pairs = .ok again ∧
      (((catalogue.compile again []).under ofFirstOrganization).hits Interpretation.ofFields
        candidates).length = 2 := by
  obtain ⟨catalogue, c, reply, page, built, accepted, plain, facets, read, right, assembled, counts⟩ :=
    exists_organizationPage
  have identified : Valuation.ofFields.Identifies
      DocumentType.importCandidate.definition.identifierField candidates :=
    Valuation.identifies_of_length (by decide) (by decide)
  obtain ⟨page', assembled', each⟩ := Catalogue.count_eq_hits built Settings.isAbsolute_forTesting
    (by decide) accepted plain .ofTickets "" "" Valuation.ofFields identified ofFirstOrganization [] read right
  obtain rfl := Except.ok.inj (assembled.symm.trans assembled')
  have h := Service.isFor_of_buildCatalogue built
  have known : ∃ f ∈ DocumentType.importCandidate.definition.facets,
      f.name = "topLevelOrganization" ∧ f.parameter = "topLevelOrganization" ∧
        FacetSelection.includes (.only ["topLevelOrganization"]) f = true := by
    decide
  obtain ⟨f, hf, name, parameter, selected⟩ := known
  obtain ⟨p, hp, refines, -, -, buckets, -, -, shown, -, follow⟩ := each f
    (show f ∈ catalogue.definition.facets from h.definition ▸ hf) (facets ▸ selected)
  obtain ⟨⟨name', buckets'⟩, only, same⟩ := List.map_eq_singleton_iff.mp counts
  obtain ⟨rfl, counted⟩ := Prod.mk.inj same
  rw [name, only, List.mem_singleton] at shown
  obtain ⟨-, rfl⟩ := Prod.mk.inj shown
  obtain ⟨b, rest, rfl, pair, -⟩ := List.map_eq_cons_iff.mp counted
  obtain ⟨key, count⟩ := Prod.mk.inj pair
  have word : IsOwnWord p b.key := by
    rw [key]
    exact ⟨by decide, by decide, by decide, fun _ => by decide, fun _ => by decide⟩
  obtain ⟨link, made, text, -, decides, finds⟩ := follow b List.mem_cons_self word
  rw [parameter, key] at made
  obtain ⟨again, followed⟩ := decides.mpr ⟨keepsRequired_nil c, List.not_mem_nil⟩
  exact ⟨catalogue, c, page, b :: rest, b, List.mem_cons_self, link, again, built, accepted, assembled,
    only ▸ List.mem_singleton_self _, key, made, text, followed, (finds again followed []).trans count⟩

/-! ### Hosts with commas -/

def assignedTicket : List (String × String) :=
  [("identifier.keyword", "1"), ("publication.id.keyword", "https://a"),
    ("assignee.username.keyword", "kari")]

def countedAssignee : Json :=
  .obj [("hits", .obj [("total", .nat 1)]), ("aggregations", .obj [("assignee",
    .obj [("assignee", .obj [("buckets", .arr [.obj [("key", .str "kari"), ("doc_count", .nat 1)]])])])])]

/-- Under a host with commas a request for a publication is counted rightly, yet the link of a counted
value is refused: the address of the publication falls apart on the way. -/
theorem count_unreached : ∃ catalogue c reply page b link,
    (Settings.withCommas.apiHost.toList.take 8 = "https://".toList) ∧
    Service.buildCatalogue Settings.withCommas .ticket = .ok catalogue ∧
    catalogue.accept [] {} [("publicationId", "1"), ("aggregation", "assignee")] = .ok c ∧ IsPlain c ∧
    Valuation.ofFields.Identifies DocumentType.ticket.definition.identifierField [assignedTicket] ∧
    EngineReply.ofJson? countedAssignee = some reply ∧
    ((catalogue.compile c []).under (.granted ⟨[]⟩)).isReply Valuation.ofFields [assignedTicket] reply =
      true ∧
    catalogue.assemble (Linker.ofCriteria .ofTickets c) "" ""
      ((catalogue.compile c []).under (.granted ⟨[]⟩)) countedAssignee = .ok page ∧
    ("assignee", [b]) ∈ page.facets ∧ b.key = "kari" ∧ b.link = some link.text ∧
    link = (Linker.ofCriteria .ofTickets c).refined "assignee" "kari" ∧
    ∀ again, catalogue.accept [] {} link.pairs ≠ .ok again := by
  have evaluated : passes (Service.buildCatalogue Settings.withCommas .ticket) (fun catalogue =>
      passes (catalogue.accept [] {} [("publicationId", "1"), ("aggregation", "assignee")]) fun c =>
        ((EngineReply.ofJson? countedAssignee).any fun reply =>
          passes (catalogue.assemble (Linker.ofCriteria .ofTickets c) "" ""
            ((catalogue.compile c []).under (.granted ⟨[]⟩)) countedAssignee) fun page =>
          decide (IsPlain c ∧
            ((catalogue.compile c []).under (.granted ⟨[]⟩)).isReply Valuation.ofFields [assignedTicket]
              reply = true ∧
            page.facets = [("assignee", [⟨some ((Linker.ofCriteria .ofTickets c).refined "assignee"
              "kari").text, "kari", 1, none⟩])])) &&
        !passes (catalogue.accept [] {} ((Linker.ofCriteria .ofTickets c).refined "assignee"
          "kari").pairs) fun _ => true) = true := by
    rw [Service.buildCatalogue_eq]
    decide +kernel
  obtain ⟨catalogue, built, outcome⟩ := exists_of_passes evaluated
  obtain ⟨c, accepted, outcome⟩ := exists_of_passes outcome
  obtain ⟨first, second⟩ := Bool.and_eq_true_iff.mp outcome
  obtain ⟨reply, read, outcome⟩ := (Option.any_eq_true _ _).mp first
  obtain ⟨page, assembled, found⟩ := exists_of_passes outcome
  obtain ⟨plain, right, facets⟩ := of_decide_eq_true found
  refine ⟨catalogue, c, reply, page, _, _, by decide, built, accepted, plain,
    Valuation.identifies_of_length (by decide) (by decide), read, right, assembled,
    facets ▸ List.mem_singleton_self _, rfl, rfl, rfl, fun again followed => ?_⟩
  rw [followed] at second
  cases second

end FacetSearch
