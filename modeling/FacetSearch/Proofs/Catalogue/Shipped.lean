import FacetSearch.Proofs.Catalogue.Names

/-!
# The catalogues of the service

What holds of every parameter, every sort key and every catalogue that a service can have.
-/

namespace FacetSearch

/-! ### Parameters of the service -/

namespace Parameter

/-- A date is a bound or a pair of bounds, and its value has no other form. -/
def isRegularDate (p : Parameter) : Bool :=
  (p.operator == .between || p.operator == .atLeast || p.operator == .below) &&
    p.valuePattern == none && p.uriPrefix == none && !p.decoded && !Control.isList p.name &&
    p.name != Control.searchAfter && p.scope != .control

/-- An identifier that becomes an address is one of a list of texts. -/
def isRegularAddress (p : Parameter) (path : String) : Bool :=
  p.kind != .date && p.decoded && !p.operator.isSingleValued && p.name != Control.searchAfter &&
    !path.toList.contains ',' && p.scope != .control

/-- What holds of every parameter of the service. -/
structure IsRegular (p : Parameter) : Prop where
  known : p.isUnknown = false
  named : p.scope ≠ .internal
  date : p.kind = .date → p.isRegularDate = true
  decoded : p.decoded = true → p.elementPattern = "(?s)^.+$" ∧ p.operator.delimiter = ','
  address : ∀ path ∈ p.uriPrefix, p.isRegularAddress path = true

instance (p : Parameter) : Decidable p.IsRegular :=
  decidable_of_iff (p.isUnknown = false ∧ p.scope ≠ .internal ∧
      (p.kind = .date → p.isRegularDate = true) ∧
      (p.decoded = true → p.elementPattern = "(?s)^.+$" ∧ p.operator.delimiter = ',') ∧
      ∀ path ∈ p.uriPrefix, p.isRegularAddress path = true)
    ⟨fun ⟨h₁, h₂, h₃, h₄, h₅⟩ => ⟨h₁, h₂, h₃, h₄, h₅⟩,
      fun ⟨h₁, h₂, h₃, h₄, h₅⟩ => ⟨h₁, h₂, h₃, h₄, h₅⟩⟩

end Parameter

theorem DocumentType.isRegular_of_mem {dt : DocumentType} {p : Parameter}
    (h : p ∈ dt.definition.allParameters) : p.IsRegular := by
  have all : ∀ p ∈ dt.definition.allParameters, p.IsRegular := by
    cases dt with
    | publication => decide
    | ticket => decide
    | importCandidate => decide
  exact all p h

theorem DocumentType.scope_of_decoded {dt : DocumentType} {p : Parameter}
    (h : p ∈ dt.definition.allParameters) (isDecoded : p.decoded = true) : p.scope ≠ .control := by
  have all : ∀ p ∈ dt.definition.allParameters, p.decoded = true → p.scope ≠ .control := by
    cases dt with
    | publication => decide
    | ticket => decide
    | importCandidate => decide
  exact all p h isDecoded

/-! ### Parameters of paging and order -/

namespace Control

def offsetParameter : Parameter := .control offset "from|offset" .number "^\\d+$"
def sizeParameter : Parameter := .control size "size|results|perpage|pagesize" .number "^\\d+$"
def pageParameter : Parameter := .control page "page" .number "^\\d+$"
def sortParameter : Parameter := .control sort "sort|orderby|sortby" .sort "(?s)^.+$"
def orderParameter : Parameter := .control order "sortorder|order" .sort "(?i)^(asc|desc)$"
def cursorParameter : Parameter :=
  .control searchAfter "searchafter" .keyword "^[A-Za-z0-9_-]+$"

def aggregationParameter : Parameter :=
  .control aggregation "aggregations?" .keyword "^[A-Za-z]+$"

end Control

namespace DocumentType

variable (dt : DocumentType)

theorem mem_of_control {p : Parameter} (h : p ∈ Control.parameters) :
    p ∈ dt.definition.allParameters := List.mem_append_right _ h

theorem offset_mem : Control.offsetParameter ∈ dt.definition.allParameters :=
  dt.mem_of_control (by decide)

theorem size_mem : Control.sizeParameter ∈ dt.definition.allParameters :=
  dt.mem_of_control (by decide)

theorem page_mem : Control.pageParameter ∈ dt.definition.allParameters :=
  dt.mem_of_control (by decide)

theorem sort_mem : Control.sortParameter ∈ dt.definition.allParameters :=
  dt.mem_of_control (by decide)

theorem order_mem : Control.orderParameter ∈ dt.definition.allParameters :=
  dt.mem_of_control (by decide)

theorem cursor_mem : Control.cursorParameter ∈ dt.definition.allParameters :=
  dt.mem_of_control (by decide)

theorem aggregation_mem : Control.aggregationParameter ∈ dt.definition.allParameters :=
  dt.mem_of_control (by decide)

end DocumentType

def isSortWord (s : String) : Bool := s.toList.all fun c => c != ',' && c != ':' && !Text.isBlank c

theorem not_mark_of_isSortWord {s : String} (h : isSortWord s = true) :
    ∀ c ∈ s.toList, c ≠ ',' ∧ c ≠ ':' ∧ Text.isBlank c = false := by
  intro c hc
  have plain := List.all_eq_true.mp h c hc
  simp only [Bool.and_eq_true, bne_iff_ne, Bool.not_eq_true'] at plain
  exact ⟨plain.1.1, plain.1.2, plain.2⟩

theorem DocumentType.name_of_mem_sortKeys {dt : DocumentType} {k : SortKey}
    (h : k ∈ dt.definition.sortKeys) :
    k.name ≠ "" ∧ ∀ c ∈ k.name.toList, c ≠ ',' ∧ c ≠ ':' ∧ Text.isBlank c = false := by
  have all : ∀ k ∈ dt.definition.sortKeys, k.name ≠ "" ∧ isSortWord k.name = true := by
    cases dt with
    | publication => decide
    | ticket => decide
    | importCandidate => decide
  exact ⟨(all k h).1, not_mark_of_isSortWord (all k h).2⟩

namespace Catalogue

/-- A catalogue that the service can have for a kind of record. -/
structure IsFor (dt : DocumentType) (apiHost : String) (c : Catalogue) : Prop where
  definition : c.definition = dt.definition
  host : c.rules.apiHost = apiHost
  spellings : c.spellings.map (·.2) = dt.definition.allParameters
  /-- The pattern of a value is the parameter's own. -/
  values : ∀ e ∈ c.valuePatterns, ∃ p ∈ dt.definition.allParameters,
    p.name = e.1 ∧ Pattern.parse? p.elementPattern = some e.2
  valued : ∀ p ∈ dt.definition.allParameters, ∃ e ∈ c.valuePatterns, e.1 = p.name
  sorts : c.sorts.entries.map (·.2) = dt.definition.sortKeys
  named : c.Named

theorem isFor_catalogue (dt : DocumentType) (apiHost : String) :
    (dt.definition.catalogue apiHost).IsFor dt apiHost := by
  have sound := dt.isSound_definition
  refine ⟨rfl, rfl, ?_, ?_, ?_, ?_, sound.parameters, sound.keys⟩
  · -- None of the parameters is internal, so each of them can be named.
    have each : ∀ ps : List Parameter, (∀ p ∈ ps, p.scope ≠ .internal) → (ps.filterMap fun p =>
        if p.scope = .internal then none
        else some ((Pattern.spelled? p.spelling).getD .nothing, p)).map (·.2) = ps := by
      intro ps named
      induction ps with
      | nil => rfl
      | cons p rest ih =>
        obtain ⟨first, others⟩ := List.forall_mem_cons.mp named
        rw [List.filterMap_cons, if_neg first]
        exact congrArg (p :: ·) (ih others)
    exact each _ fun p hp => (DocumentType.isRegular_of_mem hp).named
  · intro e he
    obtain ⟨p, hp, rfl⟩ := List.mem_map.mp he
    obtain ⟨value, read⟩ := Option.isSome_iff_exists.mp (sound.values p hp)
    exact ⟨p, hp, rfl, by rw [read]; rfl⟩
  · exact fun p hp => ⟨_, List.mem_map_of_mem hp, rfl⟩
  · exact List.map_map.trans (List.map_id _)

theorem IsFor.withDefaultSize {dt : DocumentType} {apiHost : String} {c : Catalogue}
    (h : c.IsFor dt apiHost) (size : Nat) : (c.withDefaultSize size).IsFor dt apiHost :=
  ⟨h.definition, h.host, h.spellings, h.values, h.valued, h.sorts, h.named⟩

section

variable {dt : DocumentType} {apiHost : String} {c : Catalogue} (h : c.IsFor dt apiHost)
include h

theorem IsFor.resolve_name {p : Parameter} (hp : p ∈ dt.definition.allParameters) :
    c.resolve p.name = p := by
  rw [← h.spellings] at hp
  obtain ⟨e, he, rfl⟩ := List.mem_map.mp hp
  rw [resolve]
  simp only [h.named.1.find? he]

theorem IsFor.resolve_eq_unknown_or_mem (name : String) :
    c.resolve name = .unknown ∨ c.resolve name ∈ dt.definition.allParameters := by
  rw [resolve]
  cases found : c.spellings.find? fun e => e.1.occursIn (plainName (Text.trim name)) with
  | none => exact Or.inl rfl
  | some e =>
    refine Or.inr ?_
    rw [← h.spellings]
    exact List.mem_map_of_mem (List.mem_of_find?_eq_some found)

theorem IsFor.eq_of_name {p q : Parameter} (hp : p ∈ dt.definition.allParameters)
    (hq : q ∈ dt.definition.allParameters) (same : p.name = q.name) : p = q := by
  rw [← h.resolve_name hp, same, h.resolve_name hq]

theorem IsFor.parameter?_name {p : Parameter} (hp : p ∈ dt.definition.allParameters) :
    c.parameter? p.name = some p := by
  rw [Catalogue.parameter?, h.definition, Definition.parameter?]
  cases found : dt.definition.allParameters.find? (·.name == p.name) with
  | none => exact absurd (List.find?_eq_none.mp found p hp) (by simp)
  | some q =>
    have same : q.name = p.name := by simpa using List.find?_some found
    rw [h.eq_of_name (List.mem_of_find?_eq_some found) hp same]

theorem IsFor.mem_of_parameter? {name : String} {p : Parameter} (found : c.parameter? name = some p) :
    p ∈ dt.definition.allParameters ∧ p.name = name := by
  rw [Catalogue.parameter?, h.definition, Definition.parameter?] at found
  exact ⟨List.mem_of_find?_eq_some found, by simpa using List.find?_some found⟩

theorem IsFor.acceptsValue_eq {p : Parameter} (hp : p ∈ dt.definition.allParameters)
    {pattern : Pattern} (parsed : Pattern.parse? p.elementPattern = some pattern) (value : String) :
    c.acceptsValue p value = pattern.occursIn value := by
  rw [acceptsValue]
  cases found : c.valuePatterns.reverse.find? (·.1 == p.name) with
  | none =>
    obtain ⟨e, he, same⟩ := h.valued p hp
    have := List.find?_eq_none.mp found e (List.mem_reverse.mpr he)
    exact absurd same (by simpa using this)
  | some e =>
    have member := List.mem_reverse.mp (List.mem_of_find?_eq_some found)
    have same : e.1 = p.name := by simpa using List.find?_some found
    obtain ⟨q, hq, name, own⟩ := h.values e member
    rw [h.eq_of_name hq hp (name.trans same), parsed] at own
    simp only [Option.some.inj own]

theorem IsFor.resolve?_name {k : SortKey} (hk : k ∈ dt.definition.sortKeys) :
    c.sorts.resolve? k.name = some k := by
  rw [← h.sorts] at hk
  obtain ⟨e, he, rfl⟩ := List.mem_map.mp hk
  rw [SortTable.resolve?]
  simp only [h.named.2.find? he, Option.map_some]

theorem IsFor.mem_of_resolve? {name : String} {k : SortKey} (found : c.sorts.resolve? name = some k) :
    k ∈ dt.definition.sortKeys := by
  rw [SortTable.resolve?] at found
  obtain ⟨e, he, rfl⟩ := Option.map_eq_some_iff.mp found
  rw [← h.sorts]
  exact List.mem_map_of_mem (List.mem_of_find?_eq_some he)

end

end Catalogue

namespace Service

theorem isFor_of_buildCatalogue {settings : Settings} {dt : DocumentType} {catalogue : Catalogue}
    (built : buildCatalogue settings dt = .ok catalogue) :
    catalogue.IsFor dt settings.apiHost := by
  rw [buildCatalogue_eq] at built
  obtain rfl := Except.ok.inj built
  unfold catalogueOf
  cases settings.defaultPageSize with
  | none => exact Catalogue.isFor_catalogue dt settings.apiHost
  | some size => exact (Catalogue.isFor_catalogue dt settings.apiHost).withDefaultSize size

end Service
end FacetSearch
