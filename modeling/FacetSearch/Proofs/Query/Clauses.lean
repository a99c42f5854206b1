import FacetSearch.Proofs.Acceptance.Rereading
import FacetSearch.Proofs.Clause.Meaning
import FacetSearch.Proofs.Links.SelfLink
import FacetSearch.Proofs.Query.Reading
import FacetSearch.Proofs.Query.Semantics

/-!
# Clauses of accepted criteria

Whatever passes the checks of a request has a clause: each check of a value implies what the clause of
its parameter needs. The query holds these clauses in the order of the entries, and no others.
-/

namespace FacetSearch

open Acceptance
open Clause (Expresses)

variable {dt : DocumentType} {apiHost : String} {catalogue : Catalogue} {c : Criteria} {e : Entry}
  {extra : List String} {limits : Limits} {pairs : List (String × String)}

/-! ### What a clause needs -/

theorem Clause.Expresses.isSome {clause : Option Clause} {asked P : Prop}
    (h : Expresses Interpretation.ofFields [] clause asked P) (given : asked) : clause.isSome = true :=
  h.1.mpr given

namespace Parameter

variable {p : Parameter} {value : String}

theorem sought_ne_nil_iff :
    p.sought value ≠ [] ↔ ∃ x ∈ value.toList, Text.isBlank x = false ∧ x ≠ p.operator.delimiter := by
  rw [← Text.exists_trim_split_iff, sought, elements, ne_eq, List.filter_eq_nil_iff]
  simp only [List.mem_map, bne_iff_ne, ne_eq, Classical.not_forall, exists_prop, Classical.not_not]
  constructor
  · rintro ⟨_, ⟨part, hp, rfl⟩, filled⟩
    exact ⟨part, hp, filled⟩
  · rintro ⟨part, hp, filled⟩
    exact ⟨_, ⟨part, hp, rfl⟩, filled⟩

theorem freeText?_isSome {fields : List WeightedField} {restriction : List String}
    (seen : ∃ x ∈ value.toList, Text.isBlank x = false ∧ x ≠ ',') :
    (Clause.freeText? fields value restriction).isSome = true := by
  obtain ⟨x, hx, visible, other⟩ := seen
  have words : Clause.textWords (Text.trim value) ≠ [] := by
    rw [Clause.textWords, Text.words_ne_nil_iff]
    exact ⟨x, Text.mem_trim_of_not_isBlank hx visible, by simp [visible, other]⟩
  unfold Clause.freeText?
  split
  · rfl
  · split
    · rename_i none_
      exact absurd none_ words
    · rfl

def isAnswerable (p : Parameter) : Bool :=
  p.fields != [] && match p.shape with
    | none => p.operator != .silent && (!p.operator.takesSet || p.kind.isCompared)
    | some (.freeText _) => p.operator.delimiter == ','
    | some .pair => p.operator.takesSet && !p.decoded && p.valuePattern == some "^[^:]+:[^:]+$"
    | some _ => p.operator.takesSet

/-- What the checks guarantee of a value as far as its clause needs it. -/
structure IsAnswered (p : Parameter) (value : String) : Prop where
  filled : Text.trim value ≠ ""
  sought : p.operator ≠ .between → p.sought value ≠ []
  bounded : p.operator = .between → ¬(Text.trim (ends value).1 = "" ∧ Text.trim (ends value).2 = "")
  paired : p.shape = some .pair → ∀ v ∈ p.sought value, (Text.splitOnce ':' v).isSome = true

theorem clause?_isSome_of_plain {p : Parameter} {criteria : Criteria} (fields : p.fields ≠ [])
    (shape : p.shape = none) (active : p.operator ≠ .silent)
    (compared : p.operator.takesSet = true → p.kind.isCompared = true) (answered : p.IsAnswered value) :
    (p.clause? value criteria).isSome = true := by
  cases operator : p.operator with
  | allOf | anyOf | notAllOf | notAnyOf =>
    have takes : p.operator.takesSet = true := by rw [operator]; rfl
    have apart : p.operator ≠ .between := by rw [operator]; decide
    exact Expresses.isSome (expresses_compared fields shape takes (compared takes))
      (answered.sought apart)
  | between =>
    simp only [clause?, shape, plainClause?, operator, Option.isSome_map]
    exact Expresses.isSome (expresses_betweenClause? fields)
      (answered.bounded operator)
  | atLeast =>
    simp only [clause?, shape, plainClause?, operator, Option.isSome_map, bound?_eq,
      if_neg answered.filled, Option.bind_some]
    exact Expresses.isSome (expresses_rangeClause? fields _) trivial
  | below =>
    simp only [clause?, shape, plainClause?, operator, Option.isSome_map, bound?_eq,
      if_neg answered.filled, Option.bind_some]
    exact Expresses.isSome (expresses_rangeClause? fields _) trivial
  | presence =>
    simp only [clause?, shape, plainClause?, operator, Option.isSome_map]
    exact Expresses.isSome (expresses_presenceClause? fields) trivial
  | silent => exact absurd operator active

theorem clause?_isSome {criteria : Criteria} (answerable : p.isAnswerable = true)
    (answered : p.IsAnswered value) : (p.clause? value criteria).isSome = true := by
  unfold isAnswerable at answerable
  rw [Bool.and_eq_true, bne_iff_ne] at answerable
  obtain ⟨fields, form⟩ := answerable
  have combined : p.operator.takesSet = true → p.sought value ≠ [] := by
    intro takes
    apply answered.sought
    intro between
    rw [between] at takes
    cases takes
  cases shape : p.shape with
  | none =>
    simp only [shape, Bool.and_eq_true, bne_iff_ne, Bool.or_eq_true, Bool.not_eq_true'] at form
    refine clause?_isSome_of_plain fields shape form.1 (fun takes => form.2.resolve_left ?_) answered
    rw [takes]
    exact Bool.noConfusion
  | some shaped =>
    cases shaped with
    | freeText weighted =>
      simp only [shape, beq_iff_eq] at form
      simp only [clause?, shape, shapeClause?]
      apply freeText?_isSome
      rw [← form]
      apply sought_ne_nil_iff.mp (answered.sought ?_)
      intro between
      rw [between] at form
      exact absurd form (by decide)
    | pair =>
      simp only [shape, Bool.and_eq_true] at form
      obtain ⟨v, hv⟩ := List.exists_mem_of_ne_nil _ (combined form.1.1)
      exact Expresses.isSome (expresses_pair fields shape)
        ⟨v, hv, answered.paired shape v hv⟩
    | typed typeField typeValue =>
      simp only [shape] at form
      exact Expresses.isSome (expresses_typed fields shape)
        (combined form)
    | membership exactField ancestorField toggle =>
      simp only [shape] at form
      exact Expresses.isSome (expresses_membership shape)
        (combined form)

end Parameter

/-! ### What the checks guarantee -/

/-- The switch that steers the membership of an organisation has no clause of its own; all other
parameters of a query have one. -/
theorem DocumentType.isAnswerable_of_mem {p : Parameter} (h : p ∈ dt.definition.allParameters)
    (search : p.scope ≠ .control) : if p.name = "excludeSubunits" then
      p.shape = none ∧ p.operator = .silent else p.isAnswerable = true := by
  have all : ∀ p ∈ dt.definition.allParameters, p.scope ≠ .control →
      if p.name = "excludeSubunits" then p.shape = none ∧ p.operator = .silent
      else p.isAnswerable = true := by
    cases dt with
    | publication => decide
    | ticket => decide
    | importCandidate => decide
  exact all p h search

theorem DocumentType.elementPattern_of_mem {p : Parameter} (h : p ∈ dt.definition.allParameters) :
    ∃ pattern, Pattern.parse? p.elementPattern = some pattern ∧ pattern.occursIn "" = false := by
  have all : ∀ p ∈ dt.definition.allParameters,
      (Pattern.parse? p.elementPattern).any (fun pattern => !pattern.occursIn "") = true := by
    cases dt with
    | publication => decide +kernel
    | ticket => decide +kernel
    | importCandidate => decide +kernel
  have checked := all p h
  cases parsed : Pattern.parse? p.elementPattern with
  | none =>
    rw [parsed] at checked
    cases checked
  | some pattern =>
    rw [parsed] at checked
    exact ⟨pattern, rfl, by simpa using checked⟩

namespace Acceptance

theorem ne_empty_of_acceptsValue (h : catalogue.IsFor dt apiHost) {p : Parameter} {x : String}
    (hp : p ∈ dt.definition.allParameters) (accepted : catalogue.acceptsValue p x = true) : x ≠ "" := by
  obtain ⟨pattern, parsed, rejected⟩ := DocumentType.elementPattern_of_mem hp
  rw [h.acceptsValue_eq hp parsed] at accepted
  rintro rfl
  rw [rejected] at accepted
  cases accepted

theorem splitOnce_isSome_of_pair (h : catalogue.IsFor dt apiHost) {p : Parameter} {x : String}
    (hp : p ∈ dt.definition.allParameters) (form : p.valuePattern = some "^[^:]+:[^:]+$")
    (accepted : catalogue.acceptsValue p x = true) : (Text.splitOnce ':' x).isSome = true := by
  have parsed : Pattern.parse? p.elementPattern = some Pattern.pair := by
    rw [Parameter.elementPattern, form]
    exact Pattern.parse?_pair
  rw [h.acceptsValue_eq hp parsed] at accepted
  have colon := Pattern.mem_of_occursIn_pair accepted
  rw [Text.splitOnce, Option.isSome_map, Option.isSome_iff_ne_none]
  exact fun absent => Text.cutAt_eq_none_iff.mp absent colon

section

variable (h : catalogue.IsFor dt apiHost) (listed : e.parameter ∈ dt.definition.allParameters)
include h listed

theorem sought_ne_nil_of_settled (settled : IsSettled catalogue e)
    (other : e.parameter.operator ≠ .between) : e.parameter.sought e.value ≠ [] := by
  obtain ⟨-, form, -⟩ := issue?_eq_none_iff.mp settled.sound
  have form := formFault?_eq_none_iff.mp form
  obtain ⟨x, hx⟩ := List.exists_mem_of_ne_nil _ (elements_ne_nil e)
  have accepted := (form x hx).resolve_left fun left => other left.1
  have filled := ne_empty_of_acceptsValue h listed accepted
  exact List.ne_nil_of_mem (List.mem_filter.mpr ⟨hx, by simpa using filled⟩)

/-- A decoded value keeps something to look for when its identifiers become addresses. -/
theorem sought_settleEntry_ne_nil (isDecoded : e.parameter.decoded = true)
    (sound : issue? catalogue e = none) :
    e.parameter.sought (settleEntry catalogue.rules e).value ≠ [] := by
  obtain ⟨x, hx⟩ := List.exists_mem_of_ne_nil _ (elements_ne_nil e)
  cases address : e.parameter.uriPrefix with
  | none =>
    rw [settleEntry_of_plain listed isDecoded address]
    have filled := ((issue?_of_decoded h listed isDecoded).mp sound).2 x hx
    exact List.ne_nil_of_mem (List.mem_filter.mpr ⟨hx, by simpa using filled⟩)
  | some path =>
    obtain ⟨d, hd, visible, other⟩ := catalogue.rules.exists_visible_expandUri path x
    rw [settleEntry_of_address (undated_of_decoded listed isDecoded) address,
      Parameter.sought_ne_nil_iff, delimiter_of_decoded listed isDecoded]
    exact ⟨d, Text.mem_join_of_mem (List.mem_map_of_mem hx) hd, visible, other⟩

omit h listed in
theorem ends_not_blank (settled : IsSettled catalogue e) (between : e.parameter.operator = .between) :
    ¬(Text.trim (Parameter.ends e.value).1 = "" ∧ Text.trim (Parameter.ends e.value).2 = "") := by
  obtain ⟨count, -, -⟩ := issue?_eq_none_iff.mp settled.sound
  obtain ⟨few, x, hx, filled⟩ := (countFault?_between between).mp count
  rw [Entry.elements, Parameter.elements, between] at few hx
  simp only [Operator.delimiter, List.length_map] at few hx
  rintro ⟨lower, upper⟩
  rw [Parameter.ends] at lower upper
  rcases split_of_length_le few with ⟨-, once, whole⟩ | ⟨a, b, once, parts⟩
  · rw [once] at lower
    rw [whole] at hx
    exact filled ((List.mem_singleton.mp hx).trans lower)
  · rw [once] at lower upper
    rw [parts] at hx
    simp only [List.map_cons, List.map_nil, List.mem_cons, List.not_mem_nil, or_false] at hx
    rcases hx with rfl | rfl
    · exact filled lower
    · exact filled upper

end

theorem isAnswered_of_accept (h : catalogue.IsFor dt apiHost)
    (accepted : catalogue.accept extra limits pairs = .ok c) (he : e ∈ c.search)
    (answerable : e.parameter.isAnswerable = true) : e.parameter.IsAnswered e.value := by
  have member : e ∈ c.entries := Criteria.mem_entries.mpr (Or.inl he)
  have listed := (shape_of_accept h accepted).1.listed e member
  have filled := trim_ne_empty_of_accept h accepted member
  cases isDecoded : e.parameter.decoded with
  | false =>
    have settled := isSettled_of_accept h accepted member isDecoded
    refine ⟨filled, sought_ne_nil_of_settled h listed settled, ends_not_blank settled, ?_⟩
    intro shape v hv
    simp only [Parameter.isAnswerable, shape, Bool.and_eq_true, beq_iff_eq] at answerable
    obtain ⟨-, ⟨takes, -⟩, form⟩ := answerable
    obtain ⟨-, checked, -⟩ := issue?_eq_none_iff.mp settled.sound
    have passed := (formFault?_eq_none_iff.mp checked v (List.mem_filter.mp hv).1).resolve_left ?_
    · exact splitOnce_isSome_of_pair h listed form passed
    · rintro ⟨between, -⟩
      rw [between] at takes
      cases takes
  | true =>
    have comma := delimiter_of_decoded listed isDecoded
    refine ⟨filled, fun _ => ?_, fun between => ?_, fun shape => ?_⟩
    · obtain ⟨e', origin, sound, -, rfl⟩ := origin_of_accept h accepted e member
      rw [settleEntry_parameter] at isDecoded ⊢
      exact sought_settleEntry_ne_nil h origin isDecoded sound
    · rw [between] at comma
      exact absurd comma (by decide)
    · simp only [Parameter.isAnswerable, shape, isDecoded, Bool.not_true, Bool.and_false,
        Bool.false_and] at answerable
      cases answerable

end Acceptance

/-! ### The clauses of a query -/

namespace Catalogue

variable {settings : Settings}

theorem refined?_of_mem (h : catalogue.IsFor dt apiHost)
    (listed : e.parameter ∈ dt.definition.allParameters) :
    catalogue.refined? e = e.parameter.facet := by
  have all : ∀ p ∈ dt.definition.allParameters, ∀ name ∈ p.facet,
      (dt.definition.facets.find? fun f => Text.sameWord f.name name).isSome = true := by
    cases dt with
    | publication => decide
    | ticket => decide
    | importCandidate => decide
  have known : ∀ name ∈ e.parameter.facet, (catalogue.facet? name).isSome = true := by
    intro name hn
    rw [Catalogue.facet?, Catalogue.facets, h.definition]
    exact all e.parameter listed name hn
  rw [refined?]
  cases bound : e.parameter.facet with
  | none => rfl
  | some name => rw [Option.filter_some, if_pos (known name bound)]

def answered (c : Criteria) : List (Entry × Clause) :=
  c.search.filterMap fun e => (e.clause? c).map fun clause => (e, clause)

theorem map_fst_answered (c : Criteria) :
    (answered c).map Prod.fst = c.search.filter fun e => (e.clause? c).isSome := by
  rw [answered, List.map_filterMap, ← List.filterMap_eq_filter]
  apply List.filterMap_congr
  intro e _
  cases built : e.clause? c with
  | none => simp [Option.guard, built]
  | some clause => simp [Option.guard, built]

theorem clause?_of_mem_answered {r : Entry × Clause} (h : r ∈ answered c) :
    r.1 ∈ c.search ∧ r.1.clause? c = some r.2 := by
  obtain ⟨e, he, built⟩ := List.mem_filterMap.mp h
  obtain ⟨clause, found, rfl⟩ := Option.map_eq_some_iff.mp built
  exact ⟨he, found⟩

theorem clause?_isSome_iff (h : catalogue.IsFor dt apiHost)
    (accepted : catalogue.accept extra limits pairs = .ok c) (he : e ∈ c.search) :
    (e.clause? c).isSome = true ↔ e.name ≠ "excludeSubunits" := by
  have placed := (shape_of_accept h accepted).1
  have listed := placed.listed e (Criteria.mem_entries.mpr (Or.inl he))
  have form := DocumentType.isAnswerable_of_mem listed (placed.search e he)
  rw [Entry.name]
  by_cases switch : e.parameter.name = "excludeSubunits"
  · rw [if_pos switch] at form
    have none_ : e.clause? c = none := by
      simp only [Entry.clause?, Parameter.clause?, form.1, Parameter.plainClause?, form.2,
        Option.map_none]
    simp [none_, switch]
  · rw [if_neg switch] at form
    have built : (e.clause? c).isSome = true :=
      Parameter.clause?_isSome form (isAnswered_of_accept h accepted he form)
    exact ⟨fun _ => switch, fun _ => built⟩

/-- Every accepted entry of the search but the switch has a clause, and the compiled query holds it
exactly once, in the order of the entries: the clauses that refine a facet behind the counting, under
the facet's name, and the others in the query proper. -/
theorem compile_clauses (built : Service.buildCatalogue settings dt = .ok catalogue)
    (accepted : catalogue.accept extra limits pairs = .ok c) (promoted : List String)
    (access : Access) :
    let q := (catalogue.compile c promoted).under access
    (c.search.map Entry.name).Nodup ∧
    (∀ e ∈ c.search, e.name = "excludeSubunits" → e.clause? c = none) ∧
    ∃ clauses : List (Entry × Clause),
      clauses.map Prod.fst = c.search.filter (·.name != "excludeSubunits") ∧
      (∀ r ∈ clauses, r.1.clause? c = some r.2) ∧
      q.must = (clauses.filter fun r => r.1.parameter.facet.isNone).map Prod.snd ∧
      q.refinements = clauses.filterMap (fun r => r.1.parameter.facet.map fun facet => (facet, r.2)) ∧
      q.body.at? ["query", "bool", "must"] =
        (if q.must = [] then none else some (.arr (q.must.map Clause.toJson))) ∧
      q.body.at? ["post_filter", "bool", "must"] =
        if q.refinements = [] then none
        else some (.arr (q.refinements.map fun r => r.2.toJson)) := by
  intro q
  have h := Service.isFor_of_buildCatalogue built
  obtain ⟨placed, -⟩ := shape_of_accept h accepted
  have refined : ∀ r ∈ answered c, catalogue.refined? r.1 = r.1.parameter.facet := by
    intro r hr
    have he := (clause?_of_mem_answered hr).1
    exact refined?_of_mem h (placed.listed r.1 (Criteria.mem_entries.mpr (Or.inl he)))
  refine ⟨placed.searchOnce, ?_, answered c, ?_, fun r hr => (clause?_of_mem_answered hr).2, ?_, ?_,
    q.must_body, q.post_filter_body⟩
  · intro e he switch
    rw [← Option.isNone_iff_eq_none, ← Option.isSome_eq_false_iff, Bool.eq_false_iff]
    exact fun built => (clause?_isSome_iff h accepted he).mp built switch
  · rw [map_fst_answered]
    apply List.filter_congr
    intro e he
    rw [Bool.eq_iff_iff, clause?_isSome_iff h accepted he, bne_iff_ne]
  · have scored : q.must = ((answered c).filter fun r => (catalogue.refined? r.1).isNone).map Prod.snd := rfl
    rw [scored]
    congr 1
    apply List.filter_congr
    intro r hr
    rw [refined r hr]
  · have filtered : q.refinements = (answered c).filterMap fun r =>
        (catalogue.refined? r.1).map fun facet => (facet, r.2) := rfl
    rw [filtered]
    apply List.filterMap_congr
    intro r hr
    rw [refined r hr]

end Catalogue

/-! ### Tickets of one owner and one type -/

theorem exists_ownedTickets :
    ∃ catalogue c, Service.buildCatalogue Settings.forTesting .ticket = .ok catalogue ∧
      catalogue.accept [] {} [("type", "Doi"), ("excludeSubunits", "true"), ("owner", "kari")] = .ok c ∧
      (c.search.filter (·.name != "excludeSubunits")).map (·.parameter.facet) = [some "type", none] := by
  have evaluated : passes (Service.buildCatalogue Settings.forTesting .ticket) (fun catalogue =>
      passes (catalogue.accept [] {} [("type", "Doi"), ("excludeSubunits", "true"), ("owner", "kari")])
        fun c => decide ((c.search.filter (·.name != "excludeSubunits")).map (·.parameter.facet) =
          [some "type", none])) = true := by
    rw [Service.buildCatalogue_eq]
    decide +kernel
  obtain ⟨catalogue, built, outcome⟩ := exists_of_passes evaluated
  obtain ⟨c, accepted, facets⟩ := exists_of_passes outcome
  exact ⟨catalogue, c, built, accepted, of_decide_eq_true facets⟩

/-- The owner is scored and the type filters behind the counting; the switch has no clause. -/
theorem compile_clauses_ownedTickets :
    ∃ catalogue c scored filtering, Service.buildCatalogue Settings.forTesting .ticket = .ok catalogue ∧
      catalogue.accept [] {} [("type", "Doi"), ("excludeSubunits", "true"), ("owner", "kari")] = .ok c ∧
      (catalogue.compile c []).must = [scored] ∧
      (catalogue.compile c []).refinements = [("type", filtering)] := by
  obtain ⟨catalogue, c, built, accepted, facets⟩ := exists_ownedTickets
  obtain ⟨-, -, clauses, entries, -, must, refinements, -⟩ :=
    Catalogue.compile_clauses built accepted [] .denied
  rw [← entries, List.map_map] at facets
  obtain ⟨⟨first, filtering⟩, rest, rfl, typed, others⟩ := List.map_eq_cons_iff.mp facets
  obtain ⟨⟨second, scored⟩, rest, rfl, owned, ended⟩ := List.map_eq_cons_iff.mp others
  obtain rfl := List.map_eq_nil_iff.mp ended
  simp only [Function.comp_apply] at typed owned
  refine ⟨catalogue, c, scored, filtering, built, accepted, must.trans ?_, refinements.trans ?_⟩
  · simp [typed, owned]
  · simp [typed, owned]

end FacetSearch
