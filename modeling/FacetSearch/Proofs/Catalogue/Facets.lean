import FacetSearch.Proofs.Query.Agreement

/-!
# Facets of the service

Every facet is bound to one parameter, which compares a word with the very field that the facet
counts. No other parameter refines the facet, and no clause of another parameter looks at it.
-/

namespace FacetSearch

/-- The parameter finds the records that a facet counts for one of its values. -/
structure Facet.IsRefinedBy (f : Facet) (p : Parameter) : Prop where
  name : p.name = f.parameter
  kind : p.kind = .keyword
  operator : p.operator = .anyOf
  fields : p.fields = [f.field]
  nested : p.nested = f.nested
  scope : p.scope = .search
  form : p.valuePattern = none
  shape : p.shape = none
  boost : p.boost.isNeutral = true
  facet : p.facet = some f.name
  /-- Nested objects are counted by the records that hold them. -/
  records : f.countsRecords = f.nested.isSome

instance (f : Facet) (p : Parameter) : Decidable (f.IsRefinedBy p) :=
  decidable_of_iff (p.name = f.parameter ∧ p.kind = .keyword ∧ p.operator = .anyOf ∧
      p.fields = [f.field] ∧ p.nested = f.nested ∧ p.scope = .search ∧ p.valuePattern = none ∧
      p.shape = none ∧ p.boost.isNeutral = true ∧ p.facet = some f.name ∧
      f.countsRecords = f.nested.isSome)
    ⟨fun ⟨h₁, h₂, h₃, h₄, h₅, h₆, h₇, h₈, h₉, h₁₀, h₁₁⟩ =>
        ⟨h₁, h₂, h₃, h₄, h₅, h₆, h₇, h₈, h₉, h₁₀, h₁₁⟩,
      fun ⟨h₁, h₂, h₃, h₄, h₅, h₆, h₇, h₈, h₉, h₁₀, h₁₁⟩ =>
        ⟨h₁, h₂, h₃, h₄, h₅, h₆, h₇, h₈, h₉, h₁₀, h₁₁⟩⟩

namespace DocumentType

variable {dt : DocumentType} {f : Facet} {p : Parameter}

theorem exists_isRefinedBy (h : f ∈ dt.definition.facets) :
    ∃ p ∈ dt.definition.allParameters, f.IsRefinedBy p := by
  have all : ∀ f ∈ dt.definition.facets, ∃ p ∈ dt.definition.allParameters, f.IsRefinedBy p := by
    cases dt with
    | publication => decide
    | ticket => decide
    | importCandidate => decide
  exact all f h

theorem facets_nodup (dt : DocumentType) : (dt.definition.facets.map (·.name)).Nodup := by
  cases dt with
  | publication => decide
  | ticket => decide
  | importCandidate => decide

/-- A facet's name is bound to its own parameter only, and no switch is a facet's parameter. -/
theorem apart_of_facet (h : f ∈ dt.definition.facets) (hp : p ∈ dt.definition.allParameters) :
    (p.facet = some f.name → p.name = f.parameter) ∧ p.toggle? ≠ some f.parameter := by
  have all : ∀ f ∈ dt.definition.facets, ∀ p ∈ dt.definition.allParameters,
      (p.facet = some f.name → p.name = f.parameter) ∧ p.toggle? ≠ some f.parameter := by
    cases dt with
    | publication => decide
    | ticket => decide
    | importCandidate => decide
  exact all f h p hp

end DocumentType

end FacetSearch
