import FacetSearch.Proofs.Acceptance.Controls
import FacetSearch.Proofs.Criteria.Lookup

/-!
# Stages of acceptance

What each stage of `Catalogue.accept` does to the criteria: which entries it touches, what it keeps,
and when it fails.
-/

namespace FacetSearch

namespace Acceptance

open Control (offsetParameter sortParameter)
open Text (Trimmed)

variable {dt : DocumentType} {apiHost : String} {catalogue : Catalogue} {c c' : Criteria}
  {extra : List String} {limits : Limits} {pairs : List (String × String)} {p : Parameter}
  {name value : String}

/-! ### The stages in turn -/

theorem checkValues_eq_ok_iff :
    checkValues catalogue c = .ok () ↔ ∀ e ∈ c.entries, issue? catalogue e = none := by
  rw [← List.filterMap_eq_nil_iff]
  unfold checkValues
  cases found : c.entries.filterMap (issue? catalogue) with
  | nil => simp
  | cons issue rest => simp

theorem checkBounds_eq_ok_iff :
    checkBounds limits c = .ok () ↔ sizeIssue? limits c = none ∧ windowIssue? limits c = none := by
  unfold checkBounds
  cases sizeIssue? limits c <;> cases windowIssue? limits c <;> simp

/-- A request is accepted when every stage passes. -/
theorem accept_eq_ok_iff : catalogue.accept extra limits pairs = .ok c ↔
    ∃ collected sorted, addDefaults catalogue (gather catalogue extra pairs).criteria = collected ∧
      absent collected = [] ∧ (gather catalogue extra pairs).unknown = [] ∧
      checkValues catalogue collected = .ok () ∧ settleSort catalogue collected = .ok sorted ∧
      checkFacets catalogue sorted = .ok () ∧ checkBounds limits (settle catalogue sorted) = .ok () ∧
      settle catalogue sorted = c := by
  unfold Catalogue.accept
  simp only []
  generalize gather catalogue extra pairs = g
  constructor
  · intro h
    by_cases missing : (absent (addDefaults catalogue g.criteria)).isEmpty = true
    · rw [if_pos missing] at h
      by_cases unknown : g.unknown.isEmpty = true
      · rw [if_pos unknown] at h
        obtain ⟨_, values, h⟩ := bind_ok h
        obtain ⟨sorted, sorting, h⟩ := bind_ok h
        obtain ⟨_, facets, h⟩ := bind_ok h
        obtain ⟨_, bounds, h⟩ := bind_ok h
        exact ⟨_, sorted, rfl, List.isEmpty_iff.mp missing, List.isEmpty_iff.mp unknown, values,
          sorting, facets, bounds, Except.ok.inj h⟩
      · rw [if_neg unknown] at h
        cases h
    · rw [if_neg missing] at h
      cases h
  · rintro ⟨collected, sorted, rfl, missing, unknown, values, sorting, facets, bounds, rfl⟩
    rw [if_pos (List.isEmpty_iff.mpr missing), if_pos (List.isEmpty_iff.mpr unknown), values]
    simp only [bind, Except.bind, sorting, facets, bounds]
    rfl

/-! ### Gathering -/

/-- A value that is not decoded is trimmed and not empty. -/
def IsTidy (e : Entry) : Prop := e.parameter.decoded = false → Trimmed e.value ∧ e.value ≠ ""

/-- What holds of criteria from their first entry on. -/
structure IsCollected (dt : DocumentType) (required : List String) (c : Criteria) : Prop where
  placed : c.IsPlaced dt
  tidy : ∀ e ∈ c.entries, IsTidy e
  required : c.required = required

theorem trimmed_delimited {old value : String} (ho : Trimmed old) (begun : old ≠ "")
    (hv : Trimmed value) (ended : value ≠ "") (operator : Operator) :
    Trimmed (old ++ operator.delimiter.toString ++ value) ∧
      old ++ operator.delimiter.toString ++ value ≠ "" := by
  have mark : Trimmed operator.delimiter.toString ∧ operator.delimiter.toString ≠ "" := by
    cases operator <;> decide
  have front := ho.append mark.1 begun mark.2
  have some : old ++ operator.delimiter.toString ≠ "" := by
    intro empty
    exact begun (String.append_eq_empty_iff.mp empty).1
  exact ⟨front.append hv some ended, fun empty => some (String.append_eq_empty_iff.mp empty).1⟩

theorem IsCollected.merge {required : List String} (collected : IsCollected dt required c)
    (hp : p ∈ dt.definition.allParameters)
    (tidy : p.decoded = false → Trimmed value ∧ value ≠ "") :
    IsCollected dt required (c.merge p value) := by
  refine ⟨collected.placed.modifyFor hp, ?_, (Criteria.required_modifyFor c p _).trans
    collected.required⟩
  refine Criteria.forall_merge (P := IsTidy) collected.tidy tidy ?_
  intro e he same plain
  have one := DocumentType.eq_of_name (collected.placed.listed e he) hp same
  obtain ⟨trimmed, begun⟩ := collected.tidy e he plain
  obtain ⟨new, ended⟩ := tidy (one ▸ plain)
  exact trimmed_delimited trimmed begun new ended p.operator

section

variable (h : catalogue.IsFor dt apiHost) {required : List String}
include h

theorem isCollected_add {g : Gathered} (collected : IsCollected dt required g.criteria)
    (pair : String × String) : IsCollected dt required (g.add catalogue pair).criteria := by
  unfold Gathered.add
  simp only
  split
  · split
    · exact collected
    · exact collected
  · rename_i known
    split
    · exact collected
    · rename_i filled
      have listed : catalogue.resolve pair.1 ∈ dt.definition.allParameters := by
        rcases h.resolve_eq_unknown_or_mem pair.1 with unknown | listed
        · rw [unknown] at known
          exact absurd rfl known
        · exact listed
      apply collected.merge listed
      intro plain
      have same : decoded (catalogue.resolve pair.1) (Text.trim pair.2) = Text.trim pair.2 := by
        simp only [decoded, plain, Bool.false_eq_true, if_false]
      rw [same]
      exact ⟨Text.trimmed_trim pair.2, filled⟩

theorem isCollected_gather (extra : List String) (pairs : List (String × String)) :
    IsCollected dt (Criteria.requiring (catalogue.definition.required ++ extra)).required
      (gather catalogue extra pairs).criteria := by
  generalize required : (Criteria.requiring (catalogue.definition.required ++ extra)).required = names
  have folded : ∀ g : Gathered, IsCollected dt names g.criteria →
      IsCollected dt names (pairs.foldl (Gathered.add catalogue) g).criteria := by
    induction pairs with
    | nil => exact fun g collected => collected
    | cons pair rest ih => exact fun g collected => ih _ (isCollected_add h collected pair)
  apply folded
  exact ⟨Criteria.isPlaced_empty _, (fun _ he => absurd he List.not_mem_nil), required⟩

theorem tidy_of_defaultValue? (found : catalogue.defaultValue? name = some value) :
    Trimmed value ∧ value ≠ "" := by
  have own : Trimmed dt.definition.defaultSort ∧ dt.definition.defaultSort ≠ "" := by
    cases dt <;> decide
  unfold Catalogue.defaultValue? at found
  split at found
  · obtain rfl := Option.some.inj found
    decide
  · split at found
    · obtain rfl := Option.some.inj found
      exact ⟨trimmed_render _, (digits_of_render _).1⟩
    · split at found
      · obtain rfl := Option.some.inj found
        rw [h.definition]
        exact own
      · split at found
        · obtain rfl := Option.some.inj found
          decide
        · cases found

theorem isCollected_addDefaults (collected : IsCollected dt required c) :
    IsCollected dt required (addDefaults catalogue c) := by
  unfold addDefaults
  generalize absent c = names
  induction names generalizing c with
  | nil => exact collected
  | cons name rest ih =>
    rw [List.foldl_cons]
    apply ih
    unfold addDefault
    split
    · rename_i p value found default
      exact collected.merge (h.mem_of_parameter? found).1 fun _ => tidy_of_defaultValue? h default
    · exact collected

/-! ### Settling the order -/

/-- The order of results is written out in full, and nothing else gives a direction. -/
def IsOrdered (dt : DocumentType) (c : Criteria) : Prop :=
  c.entry? Control.order = none ∧ ∀ x, c.sort? = some x → ∃ ds : List Directive, ds ≠ [] ∧
    (∀ d ∈ ds, d.key ∈ dt.definition.sortKeys) ∧ x = Directive.expression ds

def direction? (c : Criteria) : Option Direction :=
  (c.get? Control.order).bind fun order => Direction.parse? (Text.trim order)

theorem settleSort_ok (sorting : settleSort catalogue c = .ok c') :
    (c.remove Control.order).sort? = none ∧ c' = c.remove Control.order ∨
      ∃ x ds, (c.remove Control.order).sort? = some x ∧
        catalogue.sorts.parse x (direction? c) = .ok ds ∧
        c' = (c.remove Control.order).set sortParameter (Directive.expression ds) := by
  unfold settleSort at sorting
  simp only [Criteria.take_eq] at sorting
  split at sorting
  · rename_i none_
    exact Or.inl ⟨none_, (Except.ok.inj sorting).symm⟩
  · rename_i x some_
    split at sorting
    · cases sorting
    · rename_i ds read
      rw [show Control.sort = sortParameter.name from rfl, h.parameter?_name dt.sort_mem] at sorting
      exact Or.inr ⟨x, ds, some_, read, (Except.ok.inj sorting).symm⟩

theorem entry?_settleSort_of_ne (sorting : settleSort catalogue c = .ok c')
    (order : name ≠ Control.order) (sort : name ≠ Control.sort) : c'.entry? name = c.entry? name := by
  rcases settleSort_ok h sorting with ⟨-, rfl⟩ | ⟨x, ds, -, -, rfl⟩
  · exact Criteria.entry?_remove_of_ne order
  · rw [Criteria.set, Criteria.entry?_modifyFor_of_ne sort, Criteria.entry?_remove_of_ne order]

/-- What holds of criteria between the checks of single values and their final form. -/
structure IsSound (dt : DocumentType) (catalogue : Catalogue) (required : List String)
    (c : Criteria) : Prop extends IsCollected dt required c where
  sound : ∀ e ∈ c.entries, issue? catalogue e = none

omit h in
theorem IsSound.remove (ready : IsSound dt catalogue required c) (name : String) :
    IsSound dt catalogue required (c.remove name) := by
  refine ⟨⟨ready.placed.remove name, ?_, (Criteria.required_remove c name).trans ready.required⟩, ?_⟩
  · exact fun e he => ready.tidy e (Criteria.mem_of_mem_remove he)
  · exact fun e he => ready.sound e (Criteria.mem_of_mem_remove he)

theorem IsSound.set (ready : IsSound dt catalogue required c) (settled : IsSettled catalogue ⟨p, value⟩) :
    IsSound dt catalogue required (c.set p value) := by
  have hp : p ∈ dt.definition.allParameters := h.definition ▸ settled.listed
  have same : ∀ e ∈ c.entries, e.name = p.name → { e with value := value } = Entry.mk p value := by
    intro e he name
    rw [← DocumentType.eq_of_name (ready.placed.listed e he) hp name]
  refine ⟨⟨ready.placed.modifyFor hp, ?_, (Criteria.required_modifyFor c p _).trans ready.required⟩, ?_⟩
  · refine Criteria.forall_set (P := IsTidy) ready.tidy (fun _ => ⟨settled.trimmed, settled.filled⟩) ?_
    intro e he name
    rw [same e he name]
    exact fun _ => ⟨settled.trimmed, settled.filled⟩
  · refine Criteria.forall_set (P := fun e => issue? catalogue e = none) ready.sound settled.sound ?_
    intro e he name
    rw [same e he name]
    exact settled.sound

theorem directives_ne_nil {x : String} {fallback : Option Direction} {ds : List Directive}
    (ready : IsSound dt catalogue required c) (found : c.sort? = some x)
    (read : catalogue.sorts.parse x fallback = .ok ds) : ds ≠ [] := by
  obtain ⟨e, entry, rfl⟩ := Option.map_eq_some_iff.mp found
  obtain ⟨member, order⟩ := ready.placed.parameter_of_entry? dt.sort_mem entry
  rintro rfl
  have tokens : SortTable.tokens e.value = [] := by
    simpa using SortTable.parse_eq_ok_iff.mp read
  obtain ⟨-, form, -⟩ := issue?_eq_none_iff.mp (ready.sound e member)
  have form := formFault?_eq_none_iff.mp form
  rw [Entry.elements, order] at form
  obtain ⟨part, rest, parts⟩ := List.exists_cons_of_ne_nil (Text.split_ne_nil ',' e.value)
  have member : Text.trim part ∈ (Text.split ',' e.value).map Text.trim := by
    rw [parts]
    exact List.mem_cons_self
  have filled : Text.trim part ≠ "" := by
    have accepted := (form (Text.trim part) member).resolve_left fun left => absurd left.1 (by decide)
    rwa [h.acceptsValue_eq dt.sort_mem Pattern.parse?_anyText, Pattern.occursIn_anyText] at accepted
  have kept : Text.trim part ∈ SortTable.tokens e.value :=
    List.mem_filter.mpr ⟨member, by simpa using filled⟩
  rw [tokens] at kept
  exact absurd kept List.not_mem_nil

theorem isOrdered_settleSort (ready : IsSound dt catalogue required c)
    (sorting : settleSort catalogue c = .ok c') :
    IsSound dt catalogue required c' ∧ IsOrdered dt c' := by
  have rest := ready.remove Control.order
  have dropped := ready.placed.entry?_remove_self Control.order
  rcases settleSort_ok h sorting with ⟨none_, rfl⟩ | ⟨x, ds, found, read, rfl⟩
  · refine ⟨rest, dropped, ?_⟩
    intro x some_
    rw [none_] at some_
    cases some_
  · have some_ := directives_ne_nil h rest found read
    have known := h.key_of_parse read
    refine ⟨rest.set h (isSettled_order h some_ known), ?_, ?_⟩
    · rw [Criteria.set, Criteria.entry?_modifyFor_of_ne (by decide)]
      exact dropped
    · intro x written
      have stands : ((c.remove Control.order).set sortParameter (Directive.expression ds)).sort? =
          some (Directive.expression ds) := rest.placed.get?_set_self dt.sort_mem
      exact ⟨ds, some_, known, Option.some.inj (written.symm.trans stands)⟩

/-! ### Settling the page -/

theorem settlePage_cases (c : Criteria) :
    c.page? = none ∧ settlePage catalogue c = c ∨
      ∃ n, settlePage catalogue c =
        (c.remove Control.page).set offsetParameter (String.ofList (Number.Decimal.render n)) := by
  unfold settlePage
  split
  · rename_i none_
    exact Or.inl ⟨none_, rfl⟩
  · rename_i page some_
    simp only
    rw [show Control.offset = offsetParameter.name from rfl, h.parameter?_name dt.offset_mem]
    exact Or.inr ⟨_, rfl⟩

theorem entry?_settlePage_of_ne (c : Criteria) (page : name ≠ Control.page)
    (offset : name ≠ Control.offset) : Criteria.entry? (settlePage catalogue c) name = c.entry? name := by
  rcases settlePage_cases h c with ⟨-, same⟩ | ⟨n, same⟩
  · rw [same]
  · rw [same, Criteria.set, Criteria.entry?_modifyFor_of_ne offset, Criteria.entry?_remove_of_ne page]

theorem isSound_settlePage (ready : IsSound dt catalogue required c) :
    IsSound dt catalogue required (settlePage catalogue c) ∧
      (settlePage catalogue c).page? = none := by
  rcases settlePage_cases h c with ⟨none_, same⟩ | ⟨n, same⟩
  · rw [same]
    exact ⟨ready, none_⟩
  · rw [same]
    refine ⟨(ready.remove Control.page).set h (isSettled_offset h n), ?_⟩
    have dropped : Criteria.entry? ((c.remove Control.page).set offsetParameter
        (String.ofList (Number.Decimal.render n))) Control.page = none := by
      rw [Criteria.set, Criteria.entry?_modifyFor_of_ne (by decide)]
      exact ready.placed.entry?_remove_self _
    rw [Criteria.page?, Criteria.number?, Criteria.get?, dropped]
    rfl

theorem contains_settlePage (ready : IsSound dt catalogue required c) (other : name ≠ Control.page)
    (present : c.contains name = true) : (settlePage catalogue c).contains name = true := by
  by_cases offset : name = Control.offset
  · rcases settlePage_cases h c with ⟨-, same⟩ | ⟨n, same⟩
    · rwa [same]
    · rw [same, offset]
      exact Criteria.contains_iff.mpr
        ⟨_, (ready.placed.remove Control.page).get?_set_self dt.offset_mem⟩
  · rwa [Criteria.contains, entry?_settlePage_of_ne h c other offset]

/-! ### The final form -/

omit h in
theorem settleEntry_parameter (rules : Rules) (e : Entry) :
    (settleEntry rules e).parameter = e.parameter := by
  have dates : (settleDates e).parameter = e.parameter := by
    unfold settleDates
    split
    · rfl
    · rfl
  rw [← dates, settleEntry]
  unfold settleAddresses
  split
  · rfl
  · rfl

def settleEntries (rules : Rules) (c : Criteria) : Criteria :=
  { c with search := c.search.map (settleEntry rules), control := c.control.map (settleEntry rules) }

omit h in
theorem settle_eq (c : Criteria) :
    settle catalogue c = settleEntries catalogue.rules (settlePage catalogue c) := rfl

omit h in
theorem entry?_settleEntries (rules : Rules) (c : Criteria) (name : String) :
    Criteria.entry? (settleEntries rules c) name = (c.entry? name).map (settleEntry rules) := by
  have kept : ∀ e, (settleEntry rules e).name = e.name :=
    fun e => congrArg Parameter.name (settleEntry_parameter rules e)
  rw [Criteria.entry?_eq, Criteria.entry?_eq, settleEntries, Entry.named?_map kept,
    Entry.named?_map kept]
  cases Entry.named? name c.search <;> cases Entry.named? name c.control <;> rfl

omit h in
theorem entry?_settleEntries_control {rules : Rules} (placed : c.IsPlaced dt)
    (hp : p ∈ dt.definition.allParameters) (control : p.scope = .control) :
    Criteria.entry? (settleEntries rules c) p.name = c.entry? p.name := by
  rw [entry?_settleEntries]
  cases found : c.entry? p.name with
  | none => rfl
  | some e =>
    obtain ⟨member, rfl⟩ := placed.parameter_of_entry? hp found
    rw [Option.map_some, settleEntry_of_control hp control]

/-- Of the presentation only the page and the offset change. -/
theorem entry?_settle_of_ne (ready : IsSound dt catalogue required c)
    (hp : p ∈ dt.definition.allParameters) (control : p.scope = .control)
    (page : p.name ≠ Control.page) (offset : p.name ≠ Control.offset) :
    Criteria.entry? (settle catalogue c) p.name = c.entry? p.name := by
  rw [settle_eq, entry?_settleEntries_control (isSound_settlePage h ready).1.placed hp control,
    entry?_settlePage_of_ne h c page offset]

end

end Acceptance

end FacetSearch
