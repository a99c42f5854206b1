import FacetSearch.Proofs.Acceptance.Alike
import FacetSearch.Proofs.Acceptance.Rereading
import FacetSearch.Proofs.Clause.Meaning

/-!
# Repeated values

A request may give a value of a list once more: the parameter has the same values as before, more than
one of them, and everything else stays as it is.
-/

namespace FacetSearch.Acceptance

variable {dt : DocumentType} {apiHost : String} {catalogue : Catalogue} {c : Criteria} {p : Parameter}
  {extra : List String} {limits : Limits} {pairs : List (String × String)} {pair : String × String}
  {value more : String}

/-! ### Final forms -/

theorem elements_settleEntry {rules : Rules} (undated : p.kind ≠ .date) :
    p.elements (settleEntry rules ⟨p, value⟩).value = match p.uriPrefix with
      | none => p.elements value
      | some path => (p.elements value).flatMap fun x => p.elements (rules.expandUri path x) := by
  cases address : p.uriPrefix with
  | none => rw [settleEntry, settleDates_of_ne undated, settleAddresses_of_none address]
  | some path =>
    have some : (p.elements value).map (rules.expandUri path) ≠ [] :=
      fun none_ => elements_ne_nil ⟨p, value⟩ (List.map_eq_nil_iff.mp none_)
    rw [settleEntry_of_address (e := ⟨p, value⟩) undated address, Entry.elements,
      Parameter.elements_join some, List.flatMap_map]

theorem mem_elements_settleEntry {rules : Rules} (undated : p.kind ≠ .date)
    (same : ∀ x, x ∈ p.elements more ↔ x ∈ p.elements value) (x : String) :
    x ∈ p.elements (settleEntry rules ⟨p, more⟩).value ↔
      x ∈ p.elements (settleEntry rules ⟨p, value⟩).value := by
  rw [elements_settleEntry undated, elements_settleEntry undated]
  cases p.uriPrefix with
  | none => exact same x
  | some path => simp only [List.mem_flatMap, same]

theorem length_elements_settleEntry {rules : Rules} (undated : p.kind ≠ .date) :
    (p.elements value).length ≤ (p.elements (settleEntry rules ⟨p, value⟩).value).length := by
  cases address : p.uriPrefix with
  | none => rw [settleEntry, settleDates_of_ne undated, settleAddresses_of_none address]
  | some path =>
    rw [settleEntry_of_address (e := ⟨p, value⟩) undated address, Entry.elements]
    refine Nat.le_trans (Nat.le_of_eq ?_) (Parameter.length_le_elements_join _)
    rw [List.length_map]

/-- Nothing is wrong with further values of a list that are as good as those in it. -/
theorem issue?_of_subset (other : p.operator ≠ .between) (many : takesOneValue p = false)
    (cursor : p.name ≠ Control.searchAfter) (within : ∀ x ∈ p.elements more, x ∈ p.elements value)
    (sound : issue? catalogue ⟨p, value⟩ = none) : issue? catalogue ⟨p, more⟩ = none := by
  obtain ⟨-, form, meaning⟩ := issue?_eq_none_iff.mp sound
  rw [formFault?_eq_none_iff] at form
  rw [meaningFault?_eq_none_iff] at meaning
  rw [issue?_eq_none_iff, countFault?_eq_none_iff other, formFault?_eq_none_iff,
    meaningFault?_eq_none_iff]
  refine ⟨fun single => ?_, fun x hx => form x (within x hx), fun date x hx =>
    meaning.1 date x (within x hx), fun same => absurd same cursor⟩
  rw [many] at single
  cases single

theorem given_concat_self (own : catalogue.resolve pair.1 = p) (filled : Text.trim pair.2 ≠ "") :
    given catalogue p (pairs ++ [pair]) = given catalogue p pairs ++ [decoded p (Text.trim pair.2)] := by
  rw [given_append, given_singleton, if_pos ⟨own, filled⟩]

theorem given_concat_of_ne (other : catalogue.resolve pair.1 ≠ p) :
    given catalogue p (pairs ++ [pair]) = given catalogue p pairs := by
  rw [given_append, given_singleton, if_neg fun both => other both.1, List.append_nil]

theorem mem_given (own : catalogue.resolve pair.1 = p) (member : pair ∈ pairs)
    (filled : Text.trim pair.2 ≠ "") : decoded p (Text.trim pair.2) ∈ given catalogue p pairs :=
  List.mem_map.mpr ⟨pair, List.mem_filter.mpr ⟨member, decide_eq_true ⟨own, filled⟩⟩, rfl⟩

/-- The entry of values that were joined, and that of the same values with one of them repeated. -/
theorem mem_elements_repeated {values : List String} {x : String} (kept : x ∈ values) (y : String) :
    y ∈ p.elements (Text.join p.operator.delimiter.toString (values ++ [x])) ↔
      y ∈ p.elements (Text.join p.operator.delimiter.toString values) := by
  rw [Parameter.elements_join (List.ne_nil_of_mem kept), Parameter.elements_join (by simp),
    List.flatMap_append, List.mem_append, List.flatMap_singleton, List.mem_flatMap]
  exact ⟨fun found => found.elim id fun again => ⟨x, kept, again⟩, Or.inl⟩

theorem isMany_of_repeats (repeats : p.operator.takesSet = true ∨ p.operator = .presence) :
    p.operator ≠ .between ∧ takesOneValue p = false ∧ p.operator.delimiter = ',' := by
  rw [takesOneValue]
  revert repeats
  cases p.operator <;> simp [Operator.takesSet, Operator.isSingleValued, Operator.delimiter]

theorem settleEntry_eq (rules : Rules) (e : Entry) :
    settleEntry rules e = ⟨e.parameter, (settleEntry rules e).value⟩ := by
  rw [← settleEntry_parameter rules e]

theorem sound_of_accept (h : catalogue.IsFor dt apiHost)
    (accepted : catalogue.accept extra limits pairs = .ok c) :
    ∀ e ∈ (gather catalogue extra pairs).criteria.search, issue? catalogue e = none := by
  obtain ⟨collected, sorted, rfl, -, -, values, -⟩ := accept_eq_ok_iff.mp accepted
  have sound := checkValues_eq_ok_iff.mp values
  rw [← search_addDefaults h (gather catalogue extra pairs).criteria]
  exact fun e he => sound e (Criteria.mem_entries.mpr (Or.inl he))

theorem listed_of_search (h : catalogue.IsFor dt apiHost) (own : catalogue.resolve pair.1 = p)
    (search : p.scope = .search) : p ∈ dt.definition.allParameters := by
  rcases h.resolve_eq_unknown_or_mem pair.1 with unknown | listed
  · rw [← own, unknown] at search
    cases search
  · exact own ▸ listed

section

variable (h : catalogue.IsFor dt apiHost) (own : catalogue.resolve pair.1 = p) (search : p.scope = .search)
  (repeats : p.operator.takesSet = true ∨ p.operator = .presence) (member : pair ∈ pairs)
  (filled : Text.trim pair.2 ≠ "")
include h own search

theorem undated_of_repeats (repeats : p.operator.takesSet = true ∨ p.operator = .presence) :
    p.kind ≠ .date := by
  intro date
  have single : p.operator = .between ∨ p.operator = .atLeast ∨ p.operator = .below :=
    (regularDate (e := ⟨p, ""⟩) (listed_of_search h own search) date).1
  rcases single with same | same | same <;> simp [same, Operator.takesSet] at repeats

include member filled

theorem isAlike_concat : IsAlike dt (gather catalogue extra pairs).criteria
    (gather catalogue extra (pairs ++ [pair])).criteria := by
  refine isAlike_gather h extra (fun q hq control => ?_) fun q hq => ?_
  · refine (given_concat_of_ne fun same => ?_).symm
    rw [← same, own, search] at control
    cases control
  · by_cases same : catalogue.resolve pair.1 = q
    · have some := List.ne_nil_of_mem (mem_given same member filled)
      simp [given_concat_self same filled, some]
    · rw [given_concat_of_ne same]

include repeats

theorem sound_concat
    (sound : ∀ e ∈ (gather catalogue extra pairs).criteria.search, issue? catalogue e = none) :
    ∀ e ∈ (gather catalogue extra (pairs ++ [pair])).criteria.search, issue? catalogue e = none := by
  have listed := listed_of_search h own search
  have kept := mem_given own member filled
  have alike : IsAlike dt (gather catalogue extra pairs).criteria _ :=
    isAlike_concat h own search member filled
  rw [alike.placed.forall_search] at sound
  rw [alike.placed'.forall_search]
  intro q hq scope e found
  rw [entry?_gather h extra _ hq] at found
  by_cases same : catalogue.resolve pair.1 = q
  · obtain rfl := own.symm.trans same
    have entry := entry?_gather h extra pairs listed
    rw [given_concat_self own filled, if_neg (by simp)] at found
    rw [if_neg (List.ne_nil_of_mem kept)] at entry
    obtain rfl := Option.some.inj found
    obtain ⟨other, many, -⟩ := isMany_of_repeats repeats
    have cursor : p.name ≠ Control.searchAfter := by
      intro name
      rw [h.eq_of_name listed dt.cursor_mem name] at search
      cases search
    exact issue?_of_subset other many cursor (fun y => (mem_elements_repeated kept y).mp)
      (sound p hq scope _ entry)
  · rw [given_concat_of_ne same, ← entry?_gather h extra pairs hq] at found
    exact sound q hq scope e found

/-- A repeated request is accepted, and its criteria differ in one parameter alone: it has the same
values, and more than one. -/
theorem exists_repeated (accepted : catalogue.accept extra limits pairs = .ok c) :
    ∃ again value more, catalogue.accept extra limits (pairs ++ [pair]) = .ok again ∧
      again.IsPlaced dt ∧
      (∀ q ∈ dt.definition.allParameters, q ≠ p → again.entry? q.name = c.entry? q.name) ∧
      c.entry? p.name = some ⟨p, value⟩ ∧ again.entry? p.name = some ⟨p, more⟩ ∧
      (∀ x, x ∈ p.elements more ↔ x ∈ p.elements value) ∧ 2 ≤ (p.elements more).length := by
  have listed := listed_of_search h own search
  have query : p.scope ≠ .control := by
    rw [search]
    decide
  have kept := mem_given own member filled
  have some_ := List.ne_nil_of_mem kept
  have undated := undated_of_repeats h own search repeats
  have alike : IsAlike dt (gather catalogue extra pairs).criteria _ :=
    isAlike_concat h own search member filled
  have sound := sound_of_accept h accepted
  have unknown : (gather catalogue extra pairs).unknown = [] ↔
      (gather catalogue extra (pairs ++ [pair])).unknown = [] := by
    rw [gather_concat, add_of_known (own ▸ (DocumentType.isRegular_of_mem listed).known) filled]
  obtain ⟨again, accepted', final, settled⟩ := (accept_matched h alike unknown
    ⟨fun _ => sound_concat h own search repeats member filled sound, fun _ => sound⟩).exists_ok accepted
  have others : ∀ q ∈ dt.definition.allParameters, q ≠ p → again.entry? q.name = c.entry? q.name := by
    intro q hq other
    by_cases control : q.scope = .control
    · exact (final.control q hq control).symm
    · have apart : catalogue.resolve pair.1 ≠ q := fun same => other (same.symm.trans own)
      rw [(settled q hq control).1, (settled q hq control).2, entry?_gather h extra _ hq,
        entry?_gather h extra _ hq, given_concat_of_ne apart]
  obtain ⟨entry, entry'⟩ := settled p listed query
  rw [entry?_gather h extra _ listed, if_neg some_, Option.map_some, settleEntry_eq] at entry
  rw [entry?_gather h extra _ listed, given_concat_self own filled, if_neg (by simp), Option.map_some,
    settleEntry_eq] at entry'
  have elements := mem_elements_repeated (p := p) kept
  have several : 2 ≤ (p.elements (Text.join p.operator.delimiter.toString
      (given catalogue p pairs ++ [decoded p (Text.trim pair.2)]))).length := by
    refine Nat.le_trans ?_ (Parameter.length_le_elements_join _)
    have := List.length_pos_of_mem kept
    rw [List.length_append, List.length_singleton]
    omega
  generalize Text.join p.operator.delimiter.toString (given catalogue p pairs) = value at *
  generalize Text.join p.operator.delimiter.toString
    (given catalogue p pairs ++ [decoded p (Text.trim pair.2)]) = more at *
  exact ⟨again, _, _, accepted', final.placed', others, entry, entry',
    mem_elements_settleEntry undated elements,
    Nat.le_trans several (length_elements_settleEntry undated)⟩

end

end FacetSearch.Acceptance
