import FacetSearch.Proofs.Acceptance.Offences
import FacetSearch.Proofs.Settings.Faults

/-!
# The request that asks for nothing

A request without parameters gets the defaults of its catalogue. They have the form that the checks
ask for, so that the bounds of a page alone decide. What settings are checked for before the service
starts compares a page size of their own with the largest one, and nothing with the window; so the
request can be refused by a service that started.
-/

namespace FacetSearch

open Acceptance
open Control (offsetParameter sizeParameter sortParameter aggregationParameter)
open Number (maxWord word?)
open Number.Decimal (render renderOnto digit)
open Text (Trimmed)

variable {dt : DocumentType} {apiHost : String} {catalogue : Catalogue} {settings : Settings} {n : Nat}

def Settings.plainSize (s : Settings) (dt : DocumentType) : Nat :=
  s.defaultPageSize.getD dt.definition.defaultSize

namespace Acceptance

def defaults (dt : DocumentType) (size : Nat) : Criteria where
  control := [⟨offsetParameter, "0"⟩, ⟨sizeParameter, String.ofList (render size)⟩,
    ⟨sortParameter, dt.definition.defaultSort⟩, ⟨aggregationParameter, Control.allFacets⟩]
  required := [Control.offset, Control.size, Control.sort, Control.aggregation]

section

variable (h : catalogue.IsFor dt apiHost)
include h

theorem requiredNames_nil : requiredNames catalogue [] =
    [Control.offset, Control.size, Control.sort, Control.aggregation] := by
  rw [requiredNames, h.definition]
  cases dt <;> rfl

theorem defaultOf?_name {p : Parameter} {value : String} (hp : p ∈ dt.definition.allParameters)
    (default : catalogue.defaultValue? p.name = some value) :
    defaultOf? catalogue p.name = some ⟨p, value⟩ := by
  rw [defaultOf?, h.parameter?_name hp, Option.bind_some, default, Option.map_some]

theorem stored_nil : stored catalogue [] [] = defaults dt catalogue.rules.defaultSize := by
  have offset := defaultOf?_name h dt.offset_mem rfl
  have size := defaultOf?_name h dt.size_mem rfl
  have sort := defaultOf?_name h dt.sort_mem rfl
  have aggregation := defaultOf?_name h dt.aggregation_mem rfl
  rw [h.definition] at sort
  have entries : (leftOut catalogue [] []).filterMap (defaultOf? catalogue) =
      (defaults dt catalogue.rules.defaultSize).control := by
    rw [leftOut, requiredNames_nil h]
    change [offsetParameter.name, sizeParameter.name, sortParameter.name,
      aggregationParameter.name].filterMap (defaultOf? catalogue) = _
    simp only [List.filterMap_cons, List.filterMap_nil, offset, size, sort, aggregation]
    rfl
  rw [stored, requiredNames_nil h, entries]
  rfl

theorem isSettled_defaultSort : IsSettled catalogue ⟨sortParameter, dt.definition.defaultSort⟩ := by
  have form : Trimmed dt.definition.defaultSort ∧ dt.definition.defaultSort ≠ "" ∧
      ∀ x ∈ sortParameter.elements dt.definition.defaultSort, x ≠ "" := by
    cases dt <;> decide
  obtain ⟨trimmed, filled, named⟩ := form
  refine isSettled_control h dt.sort_mem rfl rfl rfl trimmed filled ?_ ?_ ?_
  · intro single
    cases single
  · intro x hx
    rw [h.acceptsValue_eq dt.sort_mem Pattern.parse?_anyText, Pattern.occursIn_anyText]
    exact named x hx
  · intro same
    exact absurd same (by decide)

theorem isSettled_allFacets : IsSettled catalogue ⟨aggregationParameter, Control.allFacets⟩ := by
  refine isSettled_control h dt.aggregation_mem rfl rfl rfl (by decide) (by decide) ?_ ?_ ?_
  · intro single
    cases single
  · have elements : aggregationParameter.elements Control.allFacets = [Control.allFacets] := by
      decide
    obtain ⟨pattern, read⟩ := Option.isSome_iff_exists.mp
      (show (Pattern.parse? aggregationParameter.elementPattern).isSome = true by decide)
    have accepted : (Pattern.parse? aggregationParameter.elementPattern).any
        (·.occursIn Control.allFacets) = true := by decide
    rw [read, Option.any_some] at accepted
    rw [elements]
    intro x hx
    rw [List.mem_singleton.mp hx, h.acceptsValue_eq dt.aggregation_mem read]
    exact accepted
  · intro same
    exact absurd same (by decide)

theorem sound_defaults (size : Nat) : ∀ e ∈ (defaults dt size).entries, issue? catalogue e = none := by
  have offset := isSettled_number h (p := offsetParameter) (by decide) 0
  rw [render_zero] at offset
  have size := isSettled_number h (p := sizeParameter) (by decide) size
  have sort := isSettled_defaultSort h
  have aggregation := isSettled_allFacets h
  intro e he
  simp only [defaults, Criteria.entries, List.nil_append, List.mem_cons, List.not_mem_nil,
    or_false] at he
  rcases he with rfl | rfl | rfl | rfl
  · exact offset.sound
  · exact size.sound
  · exact sort.sound
  · exact aggregation.sound

end

theorem refusalOfForm?_nil (settings : Settings) (dt : DocumentType) :
    refusalOfForm? (Service.catalogueOf settings dt) [] [] = none := by
  have h := Service.isFor_of_buildCatalogue (Service.buildCatalogue_eq settings dt)
  have missing : missingNames (Service.catalogueOf settings dt) [] [] = [] := by
    rw [missingNames, requiredNames_nil h]
    rfl
  have values : valueIssues (Service.catalogueOf settings dt)
      (stored (Service.catalogueOf settings dt) [] []) = [] := by
    rw [stored_nil h, valueIssues, List.filterMap_eq_nil_iff]
    intro e he
    rw [← issue?_eq]
    exact sound_defaults h _ e he
  -- The order that a definition gives by default can be resolved, or no catalogue is built of it.
  have tokens : strayTokens (Service.catalogueOf settings dt)
      (stored (Service.catalogueOf settings dt) [] []) = [] := by
    have sorts : (Service.catalogueOf settings dt).sorts = dt.definition.sortTable := by
      unfold Service.catalogueOf
      cases settings.defaultPageSize <;> rfl
    have resolved := dt.isSound_definition.order
    simp only [SortTable.parse_eq, isNone_directive?] at resolved
    rw [stored_nil h, strayTokens, sorts]
    change ((SortTable.tokens dt.definition.defaultSort).filter _) = []
    split at resolved
    · rename_i none_
      exact none_
    · cases resolved
  have facets : facetIssues (Service.catalogueOf settings dt)
      (stored (Service.catalogueOf settings dt) [] []) = [] := by
    have all : (defaults dt (Service.catalogueOf settings dt).rules.defaultSize).facets = .all := by
      change FacetSelection.parse Control.allFacets = .all
      decide
    rw [stored_nil h, facetIssues, all]
  unfold refusalOfForm?
  simp only [missing, values, tokens, facets]
  rfl

theorem page?_defaults (h : n ≤ maxWord) : page? (defaults dt n) = some (0, n) := by
  have size : (Criteria.get? (defaults dt n) Control.size).bind word? = some n := by
    change word? (String.ofList (render n)) = some n
    rw [word?, String.toList_ofList, Number.Decimal.digits?_render, Option.filter_some,
      if_pos (by simpa using h)]
  rw [page?, size]
  rfl

end Acceptance

/-! ### What settings are checked for -/

theorem DocumentType.defaultSize_eq (dt : DocumentType) : dt.definition.defaultSize = 15 := by
  cases dt <;> rfl

theorem Service.defaultSize_catalogueOf (settings : Settings) (dt : DocumentType) :
    (catalogueOf settings dt).rules.defaultSize = settings.plainSize dt := by
  unfold catalogueOf Settings.plainSize
  cases settings.defaultPageSize <;> rfl

/-- A page size of the settings keeps to the largest one, and that of a catalogue to the window. -/
theorem Settings.plainSize_cases (sound : settings.faults = []) (dt : DocumentType) :
    settings.defaultPageSize = none ∧ settings.plainSize dt = 15 ∨
      settings.defaultPageSize = some (settings.plainSize dt) ∧
        settings.plainSize dt ≤ settings.maxPageSize := by
  cases own : settings.defaultPageSize with
  | none =>
    refine Or.inl ⟨rfl, ?_⟩
    rw [plainSize, own, Option.getD_none, dt.defaultSize_eq]
  | some size =>
    have same : settings.plainSize dt = size := by rw [plainSize, own, Option.getD_some]
    exact Or.inr ⟨by rw [same], same ▸ ((faults_eq_nil_iff.mp sound).2.2.2.1 size own).2⟩

theorem Settings.le_maxWord_plainSize (sound : settings.faults = [])
    (word : settings.maxPageSize ≤ maxWord) (dt : DocumentType) : settings.plainSize dt ≤ maxWord := by
  rcases plainSize_cases sound dt with ⟨-, same⟩ | ⟨-, small⟩
  · rw [same]
    decide
  · exact Nat.le_trans small word

theorem Acceptance.accept_nil (held : settings.plainSize dt ≤ maxWord) :
    match reported (boundIssues settings.limits (defaults dt (settings.plainSize dt)) 0
        (settings.plainSize dt)) .invalidValues with
    | some refusal => (Service.catalogueOf settings dt).accept [] settings.limits [] = .error refusal
    | none => ∃ c, (Service.catalogueOf settings dt).accept [] settings.limits [] = .ok c := by
  have h := Service.isFor_of_buildCatalogue (Service.buildCatalogue_eq settings dt)
  have stands : stored (Service.catalogueOf settings dt) [] [] = defaults dt (settings.plainSize dt) := by
    rw [stored_nil h, Service.defaultSize_catalogueOf]
  have outcome := accept_of_page? h settings.limits (refusalOfForm?_nil settings dt)
    (show 10000 < maxWord by decide) (stands ▸ page?_defaults held)
  rw [stands] at outcome
  exact outcome

/-- The request without parameters, to a service whose settings are in order. It is accepted if its
page size keeps to the largest one and to the window. The catalogue's own page size may be beyond the
largest one, and a page size of the settings beyond the window; then the request is refused. -/
theorem Settings.accept_plain (sound : settings.faults = []) (word : settings.maxPageSize ≤ maxWord)
    (dt : DocumentType) :
    ∃ catalogue, Service.buildCatalogue settings dt = .ok catalogue ∧
      (settings.plainSize dt ≤ settings.maxPageSize → settings.plainSize dt ≤ settings.limits.window →
        ∃ c, catalogue.accept [] settings.limits [] = .ok c) ∧
      (settings.maxPageSize < settings.plainSize dt → settings.defaultPageSize = none ∧
        catalogue.accept [] settings.limits [] = .error (.invalidValues [
          ⟨Control.size, String.ofList (render (settings.plainSize dt)),
            "must be at most " ++ String.ofList (render settings.maxPageSize)⟩])) ∧
      (settings.limits.window < settings.plainSize dt →
        settings.defaultPageSize = some (settings.plainSize dt) ∧
        catalogue.accept [] settings.limits [] = .error (.invalidValues [
          ⟨Control.offset, "0",
            "from + size must not exceed 10000; use searchAfter for deeper pages"⟩])) := by
  have outcome := accept_nil (le_maxWord_plainSize sound word dt)
  rw [boundIssues] at outcome
  have first : Criteria.searchAfter? (defaults dt (settings.plainSize dt)) = none := rfl
  have window : settings.limits.window = 10000 := rfl
  have largest : settings.limits.maxSize = settings.maxPageSize := rfl
  refine ⟨_, Service.buildCatalogue_eq settings dt, fun small near => ?_, fun large => ?_,
    fun far => ?_⟩
  · rw [if_neg (by omega), if_neg (by omega)] at outcome
    exact outcome
  · obtain ⟨none_, same⟩ : settings.defaultPageSize = none ∧ settings.plainSize dt = 15 :=
      (plainSize_cases sound dt).resolve_right fun own => absurd large (Nat.not_lt.mpr own.2)
    rw [if_pos (by omega), if_neg (by omega)] at outcome
    exact ⟨none_, outcome⟩
  · obtain ⟨own, small⟩ : settings.defaultPageSize = some (settings.plainSize dt) ∧
        settings.plainSize dt ≤ settings.maxPageSize := by
      rcases plainSize_cases sound dt with ⟨-, same⟩ | own
      · omega
      · exact own
    have shown : String.ofList (render settings.limits.window) = "10000" := by
      rw [window]
      simp [render, renderOnto, digit]
    rw [if_neg (by omega), if_pos ⟨first, by omega⟩, Nat.zero_min, render_zero, shown] at outcome
    exact ⟨own, outcome⟩

/-! ### Settings under which the request is accepted, and under which it is refused -/

theorem Settings.accept_plain_unchosen :
    ∃ catalogue, Service.buildCatalogue {} .ticket = .ok catalogue ∧
      ∃ c, catalogue.accept [] (Settings.limits {}) [] = .ok c := by
  obtain ⟨catalogue, built, accepted, -⟩ :=
    Settings.accept_plain ((Settings.faults_sizes none 1000).mpr (by simp)) (by decide) .ticket
  exact ⟨catalogue, built, accepted (by decide) (by decide)⟩

/-- The largest page is smaller than the page that a request for tickets gets by default; and a page
size by default, allowed as the largest one, is beyond the window. -/
theorem Settings.accept_plain_refused :
    Settings.faults { maxPageSize := 10 } = [] ∧
    Settings.faults { defaultPageSize := some 20000, maxPageSize := 20000 } = [] ∧
    (∃ catalogue, Service.buildCatalogue { maxPageSize := 10 } .ticket = .ok catalogue ∧
      catalogue.accept [] (Settings.limits { maxPageSize := 10 }) [] =
        .error (.invalidValues [⟨"size", "15", "must be at most 10"⟩])) ∧
    ∃ catalogue, Service.buildCatalogue { defaultPageSize := some 20000, maxPageSize := 20000 }
        .ticket = .ok catalogue ∧
      catalogue.accept [] (Settings.limits { defaultPageSize := some 20000, maxPageSize := 20000 }) [] =
        .error (.invalidValues [⟨"from", "0",
          "from + size must not exceed 10000; use searchAfter for deeper pages"⟩]) := by
  refine ⟨(Settings.faults_sizes none 10).mpr (by simp),
    (Settings.faults_sizes (some 20000) 20000).mpr (by simp),
    ⟨_, Service.buildCatalogue_eq _ _, ?_⟩, ⟨_, Service.buildCatalogue_eq _ _, ?_⟩⟩
  · decide +kernel
  · decide +kernel

end FacetSearch
