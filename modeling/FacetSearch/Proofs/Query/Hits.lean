import FacetSearch.Proofs.Query.Agreement
import FacetSearch.Proofs.Query.Semantics

/-!
# Which documents a search finds

The clauses of accepted criteria are spread over the query and the filter after the counting. A hit
satisfies them all; a facet counts the documents that satisfy all clauses but its own.
-/

namespace FacetSearch

variable {Object : Type} {i : Interpretation Object} {d : Object} {catalogue : Catalogue}
  {c c' : Criteria} {e : Entry} {p : Parameter}

/-! ### Clauses of criteria -/

/-- Whether a document satisfies what an entry of the criteria asks for. -/
def Entry.Admits (i : Interpretation Object) (c : Criteria) (e : Entry) (d : Object) : Prop :=
  ∀ clause, e.clause? c = some clause → clause.holds i d = true

namespace Catalogue

variable (promoted : List String) (access : Access)

theorem mem_must {clause : Clause} : clause ∈ (catalogue.compile c promoted).must ↔
    ∃ e ∈ c.search, e.clause? c = some clause ∧ catalogue.refined? e = none := by
  simp only [compile, List.mem_map, List.mem_filter, List.mem_filterMap, Option.map_eq_some_iff,
    Option.isNone_iff_eq_none]
  constructor
  · rintro ⟨_, ⟨⟨e, he, clause, built, rfl⟩, unbound⟩, rfl⟩
    exact ⟨e, he, built, unbound⟩
  · rintro ⟨e, he, built, unbound⟩
    exact ⟨(e, clause), ⟨⟨e, he, clause, built, rfl⟩, unbound⟩, rfl⟩

theorem mem_refinements {r : String × Clause} : r ∈ (catalogue.compile c promoted).refinements ↔
    ∃ e ∈ c.search, e.clause? c = some r.2 ∧ catalogue.refined? e = some r.1 := by
  simp only [compile, List.mem_filterMap, Option.map_eq_some_iff]
  constructor
  · rintro ⟨_, ⟨e, he, clause, built, rfl⟩, name, bound, rfl⟩
    exact ⟨e, he, built, bound⟩
  · rintro ⟨e, he, built, bound⟩
    exact ⟨(e, r.2), ⟨e, he, r.2, built, rfl⟩, r.1, bound, rfl⟩

theorem forall_must : (∀ clause ∈ (catalogue.compile c promoted).must, clause.holds i d = true) ↔
    ∀ e ∈ c.search, catalogue.refined? e = none → e.Admits i c d := by
  constructor
  · exact fun all e he unbound clause built =>
      all clause ((mem_must promoted).mpr ⟨e, he, built, unbound⟩)
  · intro admits clause member
    obtain ⟨e, he, built, unbound⟩ := (mem_must promoted).mp member
    exact admits e he unbound clause built

theorem forall_refinements (P : String → Prop) :
    (∀ r ∈ (catalogue.compile c promoted).refinements, P r.1 → r.2.holds i d = true) ↔
    ∀ e ∈ c.search, ∀ name, catalogue.refined? e = some name → P name → e.Admits i c d := by
  constructor
  · exact fun all e he name bound chosen clause built =>
      all (name, clause) ((mem_refinements promoted).mpr ⟨e, he, built, bound⟩) chosen
  · intro admits r member chosen
    obtain ⟨e, he, built, bound⟩ := (mem_refinements promoted).mp member
    exact admits e he r.1 bound chosen r.2 built

theorem isMatch_compile : ((catalogue.compile c promoted).under access).isMatch i d = true ↔
    (∀ a ∈ access.clauses, a.holds i d = true) ∧
      ∀ e ∈ c.search, catalogue.refined? e = none → e.Admits i c d := by
  rw [Query.isMatch, Bool.and_eq_true, List.all_eq_true, List.all_eq_true]
  exact and_congr_right fun _ => forall_must promoted

theorem all_refinements : (((catalogue.compile c promoted).under access).refinements.all
    fun (_, clause) => clause.holds i d) = true ↔
    ∀ e ∈ c.search, ∀ name, catalogue.refined? e = some name → e.Admits i c d := by
  rw [List.all_eq_true, Query.under]
  have each : (∀ r ∈ (catalogue.compile c promoted).refinements, True → r.2.holds i d = true) ↔ _ :=
    forall_refinements promoted fun _ => True
  simpa using each

/-- A hit is a document that may be seen and that every entry of the search admits. -/
theorem isHit_compile : ((catalogue.compile c promoted).under access).isHit i d = true ↔
    (∀ a ∈ access.clauses, a.holds i d = true) ∧ ∀ e ∈ c.search, e.Admits i c d := by
  have filtered : (((catalogue.compile c promoted).under access).refinements.all fun (_, clause) =>
      clause.holds i d) = true ↔ _ := all_refinements promoted access
  rw [Query.isHit, Bool.and_eq_true, isMatch_compile, and_assoc]
  refine and_congr_right fun _ => ⟨?_, fun admits => ⟨fun e he _ => admits e he, ?_⟩⟩
  · rintro ⟨scored, refines⟩ e he
    cases bound : catalogue.refined? e with
    | none => exact scored e he bound
    | some name => exact filtered.mp refines e he name bound
  · exact filtered.mpr fun e he _ _ => admits e he

theorem holds_crossFilter {f : Facet} {active : List (String × Clause)} :
    (f.crossFilter active).holds i d = true ↔
      ∀ r ∈ active, r.1 ≠ f.name → r.2.holds i d = true := by
  have others : (∀ clause ∈ f.otherClauses active, clause.holds i d = true) ↔
      ∀ r ∈ active, r.1 ≠ f.name → r.2.holds i d = true := by
    simp only [Facet.otherClauses, List.mem_map, List.mem_filter, bne_iff_ne, ne_eq]
    constructor
    · exact fun all r hr other => all r.2 ⟨r, ⟨hr, other⟩, rfl⟩
    · rintro all _ ⟨r, ⟨hr, other⟩, rfl⟩
      exact all r hr other
  rw [← others, Facet.crossFilter]
  split
  · rename_i none_
    rw [none_]
    simp [Clause.holds]
  · rename_i clauses _
    exact Clause.holds_allOf

/-- A facet looks at the documents that may be seen and that every entry admits but those that refine
it. -/
theorem isMatch_crossFilter {f : Facet} :
    (((catalogue.compile c promoted).under access).isMatch i d = true ∧
      (f.crossFilter (catalogue.compile c promoted).refinements).holds i d = true) ↔
    (∀ a ∈ access.clauses, a.holds i d = true) ∧
      ∀ e ∈ c.search, catalogue.refined? e ≠ some f.name → e.Admits i c d := by
  rw [isMatch_compile, and_assoc, holds_crossFilter, forall_refinements promoted (· ≠ f.name)]
  refine and_congr_right fun _ => ⟨?_, fun admits => ⟨fun e he unbound => admits e he ?_, ?_⟩⟩
  · rintro ⟨scored, others⟩ e he other
    cases bound : catalogue.refined? e with
    | none => exact scored e he bound
    | some name => exact others e he name bound fun same => other (bound.trans (congrArg some same))
  · rw [unbound]
    exact (Option.some_ne_none f.name).symm
  · intro e he name bound other
    refine admits e he fun same => other ?_
    exact Option.some.inj (bound.symm.trans same)

end Catalogue

end FacetSearch
