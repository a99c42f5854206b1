import FacetSearch.Proofs.Acceptance.Parameters
import FacetSearch.Proofs.Query.Hits
import FacetSearch.Proofs.Query.Rearrangement

/-!
# Selected facets

The selector of a request is compared with the names of facets three times, in any case: when it is
checked, when a facet is looked up, and when the counts are planned. The clauses that a facet is not
narrowed by are told apart by its exact name. Where names differ by more than case and every parameter
spells its facet's name as it is, both come to the same facets.
-/

namespace FacetSearch

open Acceptance

variable {Object : Type} {i : Interpretation Object} {d : Object} {catalogue : Catalogue}
  {c : Criteria} {e : Entry} {f g : Facet} {p : Parameter} {name : String} {extra : List String}
  {limits : Limits} {pairs : List (String × String)} {active : List (String × Clause)}

/-! ### The selector -/

namespace FacetSelection

def names (s : String) : List String :=
  ((Text.split ',' s).map Text.trim).filter (· != "")

theorem includes_parse (s : String) (f : Facet) : (parse s).includes f = true ↔
    (∀ n ∈ names s, Text.sameWord n Control.noFacets = false) ∧
      ∃ n ∈ names s, Text.sameWord n Control.allFacets = true ∨ Text.sameWord n f.name = true := by
  have refused : (names s).any (Text.sameWord · Control.noFacets) = true ↔
      ¬∀ n ∈ names s, Text.sameWord n Control.noFacets = false := by
    simp only [List.any_eq_true, Classical.not_forall, Bool.not_eq_false, exists_prop]
  unfold parse
  simp only
  rw [← names]
  by_cases empty : names s = []
  · simp [empty, includes]
  by_cases plain : ∀ n ∈ names s, Text.sameWord n Control.noFacets = false
  · rw [if_neg (by simpa [empty] using plain), and_iff_right plain]
    split
    · rename_i whole
      obtain ⟨n, hn, all⟩ := List.any_eq_true.mp whole
      exact iff_of_true rfl ⟨n, hn, Or.inl all⟩
    · rename_i single
      rw [includes, List.any_eq_true]
      refine exists_congr fun n => and_congr_right fun hn => (or_iff_right fun all => single ?_).symm
      exact List.any_eq_true.mpr ⟨n, hn, all⟩
  · rw [if_pos (Bool.or_eq_true_iff.mpr (Or.inr (refused.mpr plain)))]
    exact iff_of_false Bool.false_ne_true fun both => plain both.1

theorem parse_of_plain {s : String} {n : String} (member : n ∈ names s)
    (plain : ∀ n ∈ names s, Text.sameWord n Control.noFacets = false ∧
      Text.sameWord n Control.allFacets = false) : parse s = only (names s) := by
  have listed : ¬((names s).isEmpty || (names s).any (Text.sameWord · Control.noFacets)) = true := by
    simp only [Bool.or_eq_true, List.isEmpty_iff, List.any_eq_true, not_or, not_exists, not_and,
      Bool.not_eq_true]
    exact ⟨List.ne_nil_of_mem member, fun n hn => (plain n hn).1⟩
  have single : ¬(names s).any (Text.sameWord · Control.allFacets) = true := by
    simp only [List.any_eq_true, not_exists, not_and, Bool.not_eq_true]
    exact fun n hn => (plain n hn).2
  exact (if_neg listed).trans (if_neg single)

end FacetSelection

namespace Criteria

def facetNames (c : Criteria) : List String :=
  ((c.get? Control.aggregation).map FacetSelection.names).getD []

/-- A selector selects a facet if it names it, or all facets, and does not turn all of them down. -/
def Selects (c : Criteria) (f : Facet) : Prop :=
  (∀ n ∈ c.facetNames, Text.sameWord n Control.noFacets = false) ∧
    ∃ n ∈ c.facetNames, Text.sameWord n Control.allFacets = true ∨ Text.sameWord n f.name = true

instance (c : Criteria) (f : Facet) : Decidable (c.Selects f) :=
  inferInstanceAs (Decidable ((∀ n ∈ c.facetNames, Text.sameWord n Control.noFacets = false) ∧
    ∃ n ∈ c.facetNames, Text.sameWord n Control.allFacets = true ∨ Text.sameWord n f.name = true))

theorem includes_facets (c : Criteria) (f : Facet) : c.facets.includes f = true ↔ c.Selects f := by
  rw [facets, Selects, facetNames]
  cases c.get? Control.aggregation with
  | none => simp [FacetSelection.includes]
  | some s => exact FacetSelection.includes_parse s f

end Criteria

namespace Catalogue

/-- The facet that a parameter names, in any case. -/
def facetOf? (catalogue : Catalogue) (p : Parameter) : Option Facet :=
  p.facet.bind catalogue.facet?

/-- A catalogue whose facets have names that differ by more than case, and whose parameters spell them
exactly. -/
structure HasFacets (catalogue : Catalogue) : Prop where
  built : catalogue.IsBuilt
  distinct : (catalogue.facets.map fun f => Text.lower f.name).Nodup
  spelled : ∀ p ∈ catalogue.definition.allParameters, ∀ name, p.facet = some name →
    ∀ f ∈ catalogue.facets, Text.sameWord f.name name = true → f.name = name

theorem mem_of_facet? (found : catalogue.facet? name = some f) :
    f ∈ catalogue.facets ∧ Text.sameWord f.name name = true :=
  ⟨List.mem_of_find?_eq_some found, by simpa using List.find?_some found⟩

namespace HasFacets

theorem nodup (faceted : catalogue.HasFacets) : (catalogue.facets.map (·.name)).Nodup :=
  List.Nodup.of_map Text.lower (by rw [List.map_map]; exact faceted.distinct)

theorem eq_of_sameWord (faceted : catalogue.HasFacets) (hf : f ∈ catalogue.facets)
    (hg : g ∈ catalogue.facets) (same : Text.sameWord f.name g.name = true) : f = g :=
  List.inj_on_of_nodup_map faceted.distinct hf hg (Text.sameWord_iff.mp same)

theorem filter_eq_singleton (faceted : catalogue.HasFacets) (found : catalogue.facet? name = some f) :
    catalogue.facets.filter (fun g => Text.sameWord name g.name) = [f] := by
  obtain ⟨member, named⟩ := mem_of_facet? found
  have own := Text.sameWord_iff.mp named
  refine List.perm_singleton.mp ((List.perm_ext_iff_of_nodup
    ((List.Nodup.of_map _ faceted.distinct).filter _) (List.nodup_singleton f)).mpr fun g => ?_)
  rw [List.mem_filter, List.mem_singleton]
  constructor
  · rintro ⟨hg, same⟩
    exact faceted.eq_of_sameWord hg member
      (Text.sameWord_iff.mpr ((Text.sameWord_iff.mp same).symm.trans own.symm))
  · rintro rfl
    exact ⟨member, Text.sameWord_iff.mpr own.symm⟩

theorem eq_of_name (faceted : catalogue.HasFacets) (hf : f ∈ catalogue.facets)
    (hg : g ∈ catalogue.facets) (same : f.name = g.name) : f = g :=
  faceted.eq_of_sameWord hf hg (Text.sameWord_iff.mpr (congrArg Text.lower same))

theorem refined?_eq (faceted : catalogue.HasFacets)
    (listed : e.parameter ∈ catalogue.definition.allParameters) :
    catalogue.refined? e = (catalogue.facetOf? e.parameter).map (·.name) := by
  rw [refined?, facetOf?]
  cases bound : e.parameter.facet with
  | none => rfl
  | some name =>
    rw [Option.bind_some, Option.filter_some]
    cases found : catalogue.facet? name with
    | none => rfl
    | some f =>
      obtain ⟨hf, same⟩ := mem_of_facet? found
      rw [Option.map_some, faceted.spelled _ listed name bound f hf same]
      rfl

theorem find?_name (faceted : catalogue.HasFacets) {chosen : List Facet}
    (within : ∀ f ∈ chosen, f ∈ catalogue.facets) (member : f ∈ chosen) :
    chosen.find? (·.name == f.name) = some f := by
  cases found : chosen.find? (·.name == f.name) with
  | none => exact absurd (beq_iff_eq.mpr rfl) (List.find?_eq_none.mp found f member)
  | some g =>
    have same : g.name = f.name := by simpa using List.find?_some found
    rw [faceted.eq_of_name (within g (List.mem_of_find?_eq_some found)) (within f member) same]

theorem facetOf?_eq_some_iff (faceted : catalogue.HasFacets)
    (listed : e.parameter ∈ catalogue.definition.allParameters) (hf : f ∈ catalogue.facets) :
    catalogue.facetOf? e.parameter = some f ↔ catalogue.refined? e = some f.name := by
  rw [faceted.refined?_eq listed, Option.map_eq_some_iff]
  constructor
  · exact fun bound => ⟨f, bound, rfl⟩
  · rintro ⟨g, bound, same⟩
    obtain ⟨name, -, found⟩ := Option.bind_eq_some_iff.mp bound
    rw [bound, faceted.eq_of_name (mem_of_facet? found).1 hf same]

end HasFacets

/-! ### Names that are accepted -/

theorem facet?_isSome_of_checked {names : List String} (checked : checkFacets catalogue c = .ok ())
    (chosen : c.facets = .only names) : ∀ n ∈ names, (catalogue.facet? n).isSome = true := by
  intro n hn
  rw [checkFacets, chosen] at checked
  simp only at checked
  split at checked
  · rename_i none_
    have known := List.filter_eq_nil_iff.mp none_ n hn
    rwa [Option.isNone_iff_eq_none, ← ne_eq, Option.ne_none_iff_isSome] at known
  · cases checked

/-- Each name of a selector is that of exactly one facet, if the selector lists facets by their names. -/
def NamesFacets (catalogue : Catalogue) (names : List String) : Prop :=
  (∀ n ∈ names, Text.sameWord n Control.noFacets = false ∧ Text.sameWord n Control.allFacets = false) →
    ∀ n ∈ names, ∃ f, catalogue.facets.filter (fun g => Text.sameWord n g.name) = [f]

theorem HasFacets.namesFacets (faceted : catalogue.HasFacets)
    (checked : checkFacets catalogue c = .ok ()) : catalogue.NamesFacets c.facetNames := by
  intro plain n hn
  rw [Criteria.facetNames] at plain hn
  cases given_ : c.get? Control.aggregation with
  | none =>
    rw [given_] at hn
    cases hn
  | some selector =>
    rw [given_, Option.map_some, Option.getD_some] at plain hn
    have chosen : c.facets = .only (FacetSelection.names selector) := by
      rw [Criteria.facets, given_, Option.map_some, Option.getD_some, FacetSelection.parse_of_plain hn plain]
    obtain ⟨f, found⟩ := Option.isSome_iff_exists.mp (facet?_isSome_of_checked checked chosen n hn)
    exact ⟨f, faceted.filter_eq_singleton found⟩

/-- A selector that is neither a date nor an identifier stays as it was checked. -/
theorem facetNames_settle {checked : Criteria}
    (stands : Criteria.entry? (settle catalogue checked) Control.aggregation = some e)
    (undated : e.parameter.kind ≠ .date) (plain : e.parameter.uriPrefix = none) :
    (settle catalogue checked).facetNames = checked.facetNames := by
  have settled := stands
  rw [settle_eq, entry?_settleEntries, entry?_settlePage checked (by decide) (by decide),
    Option.map_eq_some_iff] at settled
  obtain ⟨before, found, rfl⟩ := settled
  rw [settleEntry_parameter] at undated plain
  rw [settleEntry, settleDates_of_ne undated, settleAddresses_of_none plain] at stands
  rw [Criteria.facetNames, Criteria.facetNames, Criteria.get?, Criteria.get?, stands, found]

/-! ### What is counted -/

/-- The filter of a facet lets everything pass if no clause is bound to another. -/
theorem crossFilter_eq_everything_iff : f.crossFilter active = .everything ↔ ∀ r ∈ active, r.1 = f.name := by
  have others : f.otherClauses active = [] ↔ ∀ r ∈ active, r.1 = f.name := by
    simp [Facet.otherClauses, List.filter_eq_nil_iff]
  rw [← others, Facet.crossFilter]
  cases f.otherClauses active with
  | nil => exact iff_of_true rfl rfl
  | cons clause rest => exact iff_of_false Clause.noConfusion (List.cons_ne_nil clause rest)

namespace HasFacets

variable (faceted : catalogue.HasFacets)
include faceted

theorem aggregations_compile (c : Criteria) (promoted : List String) :
    (catalogue.compile c promoted).aggregations =
      (catalogue.facets.filter fun f => decide (c.Selects f)).map fun f =>
        (f.name, f.aggregation catalogue.definition.identifierField
          (catalogue.compile c promoted).refinements) := by
  have chosen : catalogue.facets.filter c.facets.includes =
      catalogue.facets.filter fun f => decide (c.Selects f) :=
    List.filter_congr fun f _ => by rw [Bool.eq_iff_iff, decide_eq_true_iff, c.includes_facets]
  rw [← chosen]
  exact Aggregation.plan_eq_map faceted.nodup _ _ _

/-- The filter of a facet lets everything pass if no parameter with a clause refines another facet. -/
theorem wrapper_eq_everything_iff (listed : AreListed catalogue c) (promoted : List String)
    (hf : f ∈ catalogue.facets) :
    f.crossFilter (catalogue.compile c promoted).refinements = .everything ↔
      ∀ e ∈ c.search, (e.clause? c).isSome = true →
        ∀ g, catalogue.facetOf? e.parameter = some g → g = f := by
  rw [crossFilter_eq_everything_iff]
  constructor
  · intro own e he built g names
    obtain ⟨clause, built⟩ := Option.isSome_iff_exists.mp built
    obtain ⟨name, -, found⟩ := Option.bind_eq_some_iff.mp names
    have hg := (mem_of_facet? found).1
    have refines := (faceted.facetOf?_eq_some_iff (listed e (Criteria.mem_entries.mpr (Or.inl he))) hg).mp names
    have member : (g.name, clause) ∈ (catalogue.compile c promoted).refinements :=
      (mem_refinements promoted).mpr ⟨e, he, built, refines⟩
    exact faceted.eq_of_name hg hf (own (g.name, clause) member)
  · intro idle r hr
    obtain ⟨e, he, built, refines⟩ := (mem_refinements promoted).mp hr
    rw [faceted.refined?_eq (listed e (Criteria.mem_entries.mpr (Or.inl he))), Option.map_eq_some_iff]
      at refines
    obtain ⟨g, names, same⟩ := refines
    rw [← same, idle e he (by rw [built, Option.isSome_some]) g names]

/-- A document passes all refinements if it passes the filter of a facet and what refines that facet. -/
theorem all_refinements_iff (listed : AreListed catalogue c) (promoted : List String)
    (hf : f ∈ catalogue.facets) (i : Interpretation Object) (d : Object) :
    ((catalogue.compile c promoted).refinements.all fun (_, clause) => clause.holds i d) = true ↔
      (f.crossFilter (catalogue.compile c promoted).refinements).holds i d = true ∧
        ∀ e ∈ c.search, catalogue.facetOf? e.parameter = some f → e.Admits i c d := by
  have bound : ∀ e ∈ c.search, catalogue.facetOf? e.parameter = some f ↔ catalogue.refined? e = some f.name :=
    fun e he => faceted.facetOf?_eq_some_iff (listed e (Criteria.mem_entries.mpr (Or.inl he))) hf
  have own : (∀ e ∈ c.search, catalogue.facetOf? e.parameter = some f → e.Admits i c d) ↔
      ∀ r ∈ (catalogue.compile c promoted).refinements, r.1 = f.name → r.2.holds i d = true := by
    rw [forall_refinements promoted (· = f.name)]
    constructor
    · rintro admits e he name refines rfl
      exact admits e he ((bound e he).mpr refines)
    · exact fun admits e he names => admits e he f.name ((bound e he).mp names) rfl
  rw [List.all_eq_true, holds_crossFilter, own]
  constructor
  · exact fun all => ⟨fun r hr _ => all r hr, fun r hr _ => all r hr⟩
  · rintro ⟨others, own⟩ r hr
    by_cases same : r.1 = f.name
    · exact own r hr same
    · exact others r hr same

end HasFacets

/-- Each name that was checked is that of one facet, and it is checked as it is kept unless it is a date
or an identifier. The facets selected are counted, each once and behind a filter, and a document passes
all refinements exactly if it passes that filter and every clause bound to the facet itself. -/
theorem compile_facets (faceted : catalogue.HasFacets)
    (accepted : catalogue.accept extra limits pairs = .ok c) (promoted : List String) :
    (∃ checked, settleSort catalogue (addDefaults catalogue (gather catalogue extra pairs).criteria) =
      .ok checked ∧ settle catalogue checked = c ∧ catalogue.NamesFacets checked.facetNames) ∧
    (∀ e, c.entry? Control.aggregation = some e → e.parameter.kind ≠ .date →
      e.parameter.uriPrefix = none → catalogue.NamesFacets c.facetNames) ∧
    (catalogue.compile c promoted).aggregations.map (·.1) =
      (catalogue.facets.filter fun f => decide (c.Selects f)).map (·.name) ∧
    ((catalogue.compile c promoted).aggregations.map (·.1)).Nodup ∧
    ((catalogue.compile c promoted).body.get? "aggs" = none ↔ ∀ f ∈ catalogue.facets, ¬c.Selects f) ∧
    ((catalogue.compile c promoted).body.at? ["post_filter", "bool", "must"] =
      if (catalogue.compile c promoted).refinements = [] then none
      else some (.arr ((catalogue.compile c promoted).refinements.map fun r => r.2.toJson))) ∧
    ∀ f ∈ catalogue.facets, c.Selects f → ∃ wrapper : Clause,
      (f.name, .filtered wrapper [(f.name, f.counts catalogue.definition.identifierField)]) ∈
        (catalogue.compile c promoted).aggregations ∧
      (catalogue.compile c promoted).body.at? ["aggs", f.name, "filter"] = some wrapper.toJson ∧
      (wrapper = .everything ↔ ∀ e ∈ c.search, (e.clause? c).isSome = true →
        ∀ g, catalogue.facetOf? e.parameter = some g → g = f) ∧
      ∀ {Object : Type} (i : Interpretation Object) (d : Object),
        ((catalogue.compile c promoted).refinements.all fun (_, clause) => clause.holds i d) = true ↔
          wrapper.holds i d = true ∧
            ∀ e ∈ c.search, catalogue.facetOf? e.parameter = some f → e.Admits i c d := by
  have listed := listed_of_accept faceted.built accepted
  have planned := faceted.aggregations_compile c promoted
  have names : (catalogue.compile c promoted).aggregations.map (·.1) =
      (catalogue.facets.filter fun f => decide (c.Selects f)).map (·.name) := by
    rw [planned, List.map_map]
    rfl
  obtain ⟨_, sorted, rfl, -, -, -, sorting, checked, -, settled⟩ := accept_eq_ok_iff.mp accepted
  refine ⟨⟨sorted, sorting, settled, faceted.namesFacets checked⟩, ?_, names, ?_, ?_,
    Query.post_filter_body _, ?_⟩
  · intro e stands undated plain
    rw [← settled] at stands ⊢
    rw [facetNames_settle stands undated plain]
    exact faceted.namesFacets checked
  · rw [names]
    exact (List.filter_sublist.map _).nodup faceted.nodup
  · rw [Query.aggs_body, planned, ite_eq_left_iff]
    simp [List.filter_eq_nil_iff]
  · intro f hf selected
    have member : f ∈ catalogue.facets.filter fun f => decide (c.Selects f) :=
      List.mem_filter.mpr ⟨hf, decide_eq_true selected⟩
    refine ⟨f.crossFilter (catalogue.compile c promoted).refinements, ?_, ?_,
      faceted.wrapper_eq_everything_iff listed promoted hf, faceted.all_refinements_iff listed promoted hf⟩
    · rw [planned]
      exact List.mem_map.mpr ⟨f, member, rfl⟩
    · rw [Query.at?_body_aggs planned, faceted.find?_name (fun g hg => (List.mem_filter.mp hg).1) member,
        Option.bind_some, (f.at?_aggregation _ [] _).1]
      rfl

end Catalogue

/-! ### Facets of the service -/

theorem DocumentType.facets_distinct (dt : DocumentType) :
    (dt.definition.facets.map fun f => Text.lower f.name).Nodup := by
  cases dt with
  | publication => decide
  | ticket => decide
  | importCandidate => decide

theorem DocumentType.facets_spelled (dt : DocumentType) : ∀ p ∈ dt.definition.allParameters,
    ∀ name, p.facet = some name → ∀ f ∈ dt.definition.facets, Text.sameWord f.name name = true →
      f.name = name := by
  have each : ∀ p ∈ dt.definition.allParameters, ∀ name ∈ p.facet, ∀ f ∈ dt.definition.facets,
      Text.sameWord f.name name = true → f.name = name := by
    cases dt with
    | publication => decide
    | ticket => decide
    | importCandidate => decide
  exact fun p hp name bound => each p hp name bound

theorem Service.hasFacets_of_buildCatalogue {settings : Settings} {dt : DocumentType}
    (built : buildCatalogue settings dt = .ok catalogue) : catalogue.HasFacets := by
  have h := isFor_of_buildCatalogue built
  have made : catalogue.IsBuilt := by
    rw [buildCatalogue] at built
    cases first : Catalogue.build dt.definition settings.apiHost with
    | error refused =>
      rw [first] at built
      cases built
    | ok base =>
      rw [first] at built
      obtain rfl := Except.ok.inj built
      cases settings.defaultPageSize with
      | none => exact .build first
      | some size => exact .withDefaultSize (.build first) size
  refine ⟨made, ?_, ?_⟩
  · rw [Catalogue.facets, h.definition]
    exact dt.facets_distinct
  · rw [Catalogue.facets, h.definition]
    exact dt.facets_spelled

theorem Catalogue.compile_facets_tickets : ∃ catalogue c,
    Service.buildCatalogue Settings.forTesting .ticket = .ok catalogue ∧ catalogue.HasFacets ∧
    catalogue.accept [] {} [("aggregation", "TYPE,status"), ("type", "Doi"), ("assignee", "kari")] = .ok c ∧
    (∀ n ∈ ["TYPE", "status"], ∃ f, catalogue.facets.filter (fun g => Text.sameWord n g.name) = [f]) ∧
    (catalogue.compile c []).aggregations.map (·.1) = ["type", "status"] ∧
    ∃ f ∈ catalogue.facets, f.name = "type" ∧ ∃ wrapper : Clause,
      (catalogue.compile c []).body.at? ["aggs", "type", "filter"] = some wrapper.toJson ∧
      wrapper ≠ .everything ∧ ∀ {Object : Type} (i : Interpretation Object) (d : Object),
        ((catalogue.compile c []).refinements.all fun (_, clause) => clause.holds i d) = true ↔
          wrapper.holds i d = true ∧
            ∀ e ∈ c.search, catalogue.facetOf? e.parameter = some f → e.Admits i c d := by
  generalize named : [("aggregation", "TYPE,status"), ("type", "Doi"), ("assignee", "kari")] = pairs
  have evaluated : passes (Service.buildCatalogue Settings.forTesting .ticket) (fun catalogue =>
      passes (catalogue.accept [] {} pairs) fun c => decide (
        c.facetNames = ["TYPE", "status"] ∧
        (catalogue.facets.filter fun f => decide (c.Selects f)).map (·.name) = ["type", "status"] ∧
        (∃ e, c.entry? Control.aggregation = some e ∧ e.parameter.kind ≠ .date ∧
          e.parameter.uriPrefix = none) ∧
        (∃ f ∈ catalogue.facets, f.name = "type" ∧ c.Selects f ∧ ∃ e ∈ c.search,
          (e.clause? c).isSome = true ∧ ∃ g, catalogue.facetOf? e.parameter = some g ∧ g ≠ f))) = true := by
    rw [Service.buildCatalogue_eq, ← named]
    decide +kernel
  obtain ⟨catalogue, built, outcome⟩ := exists_of_passes evaluated
  obtain ⟨c, accepted, read⟩ := exists_of_passes outcome
  obtain ⟨chosen, selected, ⟨e, stands, undated, plain⟩, f, hf, name, wanted, other, ho, active, g, bound,
    apart⟩ := of_decide_eq_true read
  have faceted := Service.hasFacets_of_buildCatalogue built
  obtain ⟨-, single, names, -, -, -, counted⟩ := compile_facets faceted accepted []
  obtain ⟨wrapper, -, filter, open_, passed⟩ := counted f hf wanted
  have listed := single e stands undated plain
  rw [chosen] at listed
  rw [name] at filter
  exact ⟨catalogue, c, built, faceted, accepted, listed (by decide), names.trans selected, f, hf, name,
    wrapper, filter, fun everything => apart (open_.mp everything other ho active g bound), passed⟩

end FacetSearch
