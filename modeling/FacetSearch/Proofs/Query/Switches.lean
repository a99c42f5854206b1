import FacetSearch.Proofs.Query.Order
import FacetSearch.Proofs.Query.Repetition
import FacetSearch.Proofs.Text.Folding

/-!
# Switches and directions

The patterns of switches and of the direction of an order take their words in any case, and count the
long s as an `s`. The readers of these words compare ASCII letters, so a word with a long s is admitted
and then read as if it were not there.
-/

namespace FacetSearch

open Acceptance
open Control (orderParameter)

variable {dt : DocumentType} {apiHost : String} {catalogue : Catalogue} {c : Criteria} {p : Parameter}
  {extra : List String} {limits : Limits} {pairs : List (String × String)} {value : String}

/-! ### What the patterns admit -/

theorem Pattern.wholeWords?_switch : (parse? "(?i)^(true|false)$").bind wholeWords? =
    some ["true".toList, "false".toList] := by
  decide

theorem Pattern.wholeWords?_direction : (parse? "(?i)^(asc|desc)$").bind wholeWords? =
    some ["asc".toList, "desc".toList] := by
  decide

theorem Catalogue.IsFor.acceptsValue_iff_foldsTo (h : catalogue.IsFor dt apiHost)
    (hp : p ∈ dt.definition.allParameters) {first second : String}
    (listed : (Pattern.parse? p.elementPattern).bind Pattern.wholeWords? =
      some [first.toList, second.toList]) : catalogue.acceptsValue p value = true ↔
        Text.foldsTo value first = true ∨ Text.foldsTo value second = true := by
  obtain ⟨pattern, parsed, whole⟩ := Option.bind_eq_some_iff.mp listed
  rw [h.acceptsValue_eq hp parsed, Pattern.occursIn_iff_of_wholeWords? whole, Text.foldsTo_iff,
    Text.foldsTo_iff, List.mem_cons, List.mem_singleton]

/-! ### What the readers take them for -/

namespace Text

theorem sameWord_true_iff : sameWord value "true" = true ↔ foldsTo value "true" = true := by
  rw [sameWord_iff_foldsTo rfl, and_iff_left_iff_imp, foldsTo_iff]
  intro folds long
  have letter : fold 'ſ' ∈ "true".toList := folds ▸ List.mem_map_of_mem long
  exact absurd letter (by decide)

theorem sameWord_false_iff : sameWord value "false" = true ↔
    foldsTo value "false" = true ∧ 'ſ' ∉ value.toList :=
  sameWord_iff_foldsTo rfl

end Text

/-- A word that the pattern of directions admits is read as what it says unless it has a long s. -/
theorem Direction.parse?_of_foldsTo
    (folds : Text.foldsTo value "asc" = true ∨ Text.foldsTo value "desc" = true) :
    parse? value = if 'ſ' ∈ value.toList then none
      else some (if Text.foldsTo value "asc" = true then .ascending else .descending) := by
  have first : Text.sameWord value "asc" = true ↔ _ := Text.sameWord_iff_foldsTo rfl
  have second : Text.sameWord value "desc" = true ↔ _ := Text.sameWord_iff_foldsTo rfl
  rw [parse?]
  by_cases long : 'ſ' ∈ value.toList
  · rw [if_neg fun same => (first.mp same).2 long, if_neg fun same => (second.mp same).2 long,
      if_pos long]
  · rw [if_neg long]
    by_cases ascending : Text.foldsTo value "asc" = true
    · rw [if_pos (first.mpr ⟨ascending, long⟩), if_pos ascending]
    · rw [if_neg fun same => ascending (first.mp same).1,
        if_pos (second.mpr ⟨folds.resolve_left ascending, long⟩), if_neg ascending]

/-! ### Switches of the service -/

/-- A parameter whose value is one of two words, with a clause only if it asks for presence. -/
structure Parameter.IsSwitch (p : Parameter) : Prop where
  pattern : p.elementPattern = "(?i)^(true|false)$"
  plain : p.decoded = false
  address : p.uriPrefix = none
  delimiter : p.operator.delimiter = ','
  search : p.scope = .search
  present : p.kind = .presence → p.operator = .presence ∧ p.shape = none ∧ p.fields ≠ [] ∧
    p.boost.isNeutral = true

instance (p : Parameter) : Decidable p.IsSwitch :=
  decidable_of_iff (p.elementPattern = "(?i)^(true|false)$" ∧ p.decoded = false ∧ p.uriPrefix = none ∧
      p.operator.delimiter = ',' ∧ p.scope = .search ∧
      (p.kind = .presence → p.operator = .presence ∧ p.shape = none ∧ p.fields ≠ [] ∧
        p.boost.isNeutral = true))
    ⟨fun ⟨h₁, h₂, h₃, h₄, h₅, h₆⟩ => ⟨h₁, h₂, h₃, h₄, h₅, h₆⟩,
      fun ⟨h₁, h₂, h₃, h₄, h₅, h₆⟩ => ⟨h₁, h₂, h₃, h₄, h₅, h₆⟩⟩

theorem DocumentType.isSwitch_of_mem (hp : p ∈ dt.definition.allParameters)
    (switch : p.kind = .flag ∨ p.kind = .presence) : p.IsSwitch := by
  have all : ∀ p ∈ dt.definition.allParameters, p.kind = .flag ∨ p.kind = .presence → p.IsSwitch := by
    cases dt with
    | publication => decide
    | ticket => decide
    | importCandidate => decide
  exact all p hp switch

namespace Acceptance

/-! ### Values as they are given -/

theorem given_eq_of_elements (plain : p.decoded = false)
    (single : (given catalogue p pairs).flatMap p.elements = [value]) :
    given catalogue p pairs = [value] := by
  cases listed : given catalogue p pairs with
  | nil =>
    rw [listed] at single
    cases single
  | cons first rest =>
    rw [listed, List.flatMap_cons] at single
    have length := congrArg List.length single
    rw [List.length_append, List.length_singleton] at length
    have filled := p.length_elements_pos first
    cases rest with
    | cons second more =>
      have further := p.length_elements_pos second
      rw [List.flatMap_cons, List.length_append] at length
      omega
    | nil =>
      rw [List.flatMap_nil, List.append_nil, Parameter.elements, List.map_eq_singleton_iff] at single
      obtain ⟨part, parts, rfl⟩ := single
      obtain ⟨-, rfl⟩ := Text.split_eq_singleton_iff.mp parts
      have member : part ∈ given catalogue p pairs := listed ▸ List.mem_cons_self
      rw [trimmed_of_mem_given plain member]

section

variable (h : catalogue.IsFor dt apiHost) (accepted : catalogue.accept extra limits pairs = .ok c)
  (hp : p ∈ dt.definition.allParameters)
include h accepted hp

theorem issue?_givenEntry_of_accept (some : given catalogue p pairs ≠ []) :
    issue? catalogue (givenEntry catalogue pairs p) = none := by
  obtain ⟨collected, sorted, defaults, -, -, values, -⟩ := accept_eq_ok_iff.mp accepted
  rw [addDefaults_gather h] at defaults
  subst defaults
  exact checkValues_eq_ok_iff.mp values _ ((mem_stored h hp rfl).mpr (Or.inl ⟨some, rfl⟩))

theorem acceptsValue_of_accept (other : p.operator ≠ .between) (some : given catalogue p pairs ≠ []) :
    ∀ x ∈ (given catalogue p pairs).flatMap p.elements, catalogue.acceptsValue p x = true := by
  have sound := issue?_givenEntry_of_accept h accepted hp some
  have form := formFault?_eq_none_iff.mp (issue?_eq_none_iff.mp sound).2.1
  rw [← Parameter.elements_join some]
  exact fun x hx => (form x hx).resolve_left fun both => other both.1

theorem exists_single_of_accept (one : takesOneValue p = true) (other : p.operator ≠ .between)
    (some : given catalogue p pairs ≠ []) :
    ∃ value, (given catalogue p pairs).flatMap p.elements = [value] := by
  have sound := issue?_givenEntry_of_accept h accepted hp some
  have few := (countFault?_eq_none_iff other).mp (issue?_eq_none_iff.mp sound).1 one
  rw [← Parameter.elements_join some]
  exact List.length_eq_one_iff.mp (Nat.le_antisymm few (p.length_elements_pos _))

/-- A value of the query that is neither a date nor an identifier is stored as it is given. -/
theorem get?_of_accept (query : p.scope = .search) (undated : p.kind ≠ .date) (address : p.uriPrefix = none)
    (single : given catalogue p pairs = [value]) : c.get? p.name = some value := by
  have apart : ∀ q ∈ dt.definition.allParameters, q.scope = .control → p.name ≠ q.name := by
    intro q hq control same
    rw [DocumentType.eq_of_name hp hq same, control] at query
    cases query
  have stands : (gather catalogue extra pairs).criteria.entry? p.name = some ⟨p, value⟩ := by
    rw [entry?_gather h extra pairs hp, single, if_neg (List.cons_ne_nil _ _), Text.join_singleton]
  have final := entry?_of_accept h accepted (apart _ dt.order_mem rfl) (apart _ dt.sort_mem rfl)
    (apart _ dt.page_mem rfl) (Or.inl (apart _ dt.offset_mem rfl))
    (Or.inl (by rw [Criteria.contains, stands, Option.isSome_some]))
  rw [stands, Option.map_some, settleEntry, settleDates_of_ne undated, settleAddresses_of_none address]
    at final
  rw [Criteria.get?, final, Option.map_some]

end

end Acceptance

/-! ### Presence -/

/-- The clause of presence is that of `true`, or the clause that asks for its opposite. -/
theorem Parameter.IsSwitch.exists_clause (switch : p.IsSwitch) (kind : p.kind = .presence) (c : Criteria) :
    ∃ clause, ∀ value, p.clause? value c = some
      (if Text.sameWord (Text.trim value) "false" = true then Clause.noneOf [clause] else clause) := by
  obtain ⟨presence, shape, fields, neutral⟩ := switch.present kind
  have some : p.fields.map Clause.present ≠ [] := List.map_eq_nil_iff.not.mpr fields
  obtain ⟨clause, combined⟩ := Option.ne_none_iff_exists'.mp (Clause.any?_eq_none_iff.not.mpr some)
  refine ⟨Clause.within p clause, fun value => ?_⟩
  rw [Parameter.clause?, shape, Parameter.plainClause?, presence]
  simp only [Parameter.presenceClause?, combined, Option.map_some, Parameter.withBoost, neutral, if_true]

namespace Catalogue

/-- Accepted directions and switches are words in any case, and are read as what they say unless they
have a long s. A direction with one is read as if it were left out. A switch with one folds to `false`,
but is not read as that word, and a condition of presence is then not turned around. -/
theorem words_read {settings : Settings} (built : Service.buildCatalogue settings dt = .ok catalogue)
    (accepted : catalogue.accept extra limits pairs = .ok c) :
    (∀ order ∈ given catalogue orderParameter pairs, given catalogue orderParameter pairs = [order] ∧
      (Text.foldsTo order "asc" = true ∨ Text.foldsTo order "desc" = true) ∧
      (Direction.parse? order = if 'ſ' ∈ order.toList then none
        else some (if Text.foldsTo order "asc" = true then .ascending else .descending)) ∧
      ∃ ds, catalogue.sorts.parse (askedSort catalogue pairs) (Direction.parse? order) = .ok ds ∧
        c.sort? = some (Directive.expression ds)) ∧
    ∀ p ∈ dt.definition.allParameters, p.kind = .flag ∨ p.kind = .presence → ∀ value,
      (given catalogue p pairs).flatMap p.elements = [value] → c.get? p.name = some value ∧
        (Text.foldsTo value "true" = true ∨ Text.foldsTo value "false" = true) ∧
        (c.flag p.name = true ↔ Text.foldsTo value "true" = true) ∧
        (Text.sameWord value "false" = true ↔
          Text.foldsTo value "false" = true ∧ 'ſ' ∉ value.toList) ∧
        (p.kind = .presence → ∃ clause, p.clause? "true" c = some clause ∧
          p.clause? value c = some (if Text.foldsTo value "false" = true ∧ 'ſ' ∉ value.toList then
            Clause.noneOf [clause] else clause)) := by
  have h := Service.isFor_of_buildCatalogue built
  constructor
  · intro order member
    have some := List.ne_nil_of_mem member
    obtain ⟨value, single⟩ := exists_single_of_accept h accepted dt.order_mem rfl (by decide) some
    have given_ := given_eq_of_elements rfl single
    obtain rfl : order = value := List.mem_singleton.mp (given_ ▸ member)
    have form := acceptsValue_of_accept h accepted dt.order_mem (by decide) some order
      (single ▸ List.mem_singleton_self order)
    rw [h.acceptsValue_iff_foldsTo dt.order_mem Pattern.wholeWords?_direction] at form
    obtain ⟨ds, -, read, written⟩ := order_of_accept h accepted
    rw [askedDirection?, given_, List.head?_cons, Option.bind_some] at read
    exact ⟨given_, form, Direction.parse?_of_foldsTo form, ds, read, written⟩
  · intro p hp kind value single
    have switch := DocumentType.isSwitch_of_mem hp kind
    have given_ := given_eq_of_elements switch.plain single
    have other : p.operator ≠ .between := by
      intro between
      have delimiter := switch.delimiter
      rw [between] at delimiter
      exact absurd delimiter (by decide)
    have undated : p.kind ≠ .date := by
      rcases kind with kind | kind <;> simp [kind]
    have stands := get?_of_accept h accepted hp switch.search undated switch.address given_
    have form := acceptsValue_of_accept h accepted hp other (given_ ▸ List.cons_ne_nil _ _) value
      (single ▸ List.mem_singleton_self value)
    rw [h.acceptsValue_iff_foldsTo hp (switch.pattern ▸ Pattern.wholeWords?_switch)] at form
    have trimmed : Text.trim value = value :=
      trimmed_of_mem_given switch.plain (given_ ▸ List.mem_singleton_self value)
    refine ⟨stands, form, ?_, Text.sameWord_false_iff, fun presence => ?_⟩
    · rw [Criteria.flag, stands, Option.any_some, trimmed, Text.sameWord_true_iff]
    · obtain ⟨clause, build⟩ := switch.exists_clause presence c
      refine ⟨clause, build "true", ?_⟩
      rw [build, trimmed]
      simp only [Text.sameWord_false_iff]

theorem words_read_tickets : ∃ catalogue c, ∃ p ∈ DocumentType.ticket.definition.allParameters,
    Service.buildCatalogue Settings.forTesting .ticket = .ok catalogue ∧
    catalogue.accept [] {} [("order", "DEsc"), ("hasMessages", "False")] = .ok c ∧
    p.name = "hasMessages" ∧ c.get? p.name = some "False" ∧ c.flag p.name = false ∧
    Text.sameWord "False" "false" = true ∧
    (∃ ds, catalogue.sorts.parse "createdDate:desc" (some .descending) = .ok ds ∧
      c.sort? = some (Directive.expression ds)) ∧
    ∃ clause, p.clause? "true" c = some clause ∧
      p.clause? "False" c = some (Clause.noneOf [clause]) := by
  generalize named : [("order", "DEsc"), ("hasMessages", "False")] = pairs
  have evaluated : passes (Service.buildCatalogue Settings.forTesting .ticket) (fun catalogue =>
      passes (catalogue.accept [] {} pairs) fun _ =>
        decide (given catalogue orderParameter pairs = ["DEsc"] ∧
          askedSort catalogue pairs = "createdDate:desc" ∧
          ∃ p ∈ DocumentType.ticket.definition.allParameters, p.name = "hasMessages" ∧
            p.kind = .presence ∧ (given catalogue p pairs).flatMap p.elements = ["False"])) = true := by
    rw [Service.buildCatalogue_eq, ← named]
    decide +kernel
  obtain ⟨catalogue, built, outcome⟩ := exists_of_passes evaluated
  obtain ⟨c, accepted, read⟩ := exists_of_passes outcome
  obtain ⟨order, sort, p, hp, name, kind, single⟩ := of_decide_eq_true read
  obtain ⟨directions, switches⟩ := words_read built accepted
  obtain ⟨-, -, direction, ds, parsed, written⟩ := directions "DEsc" (order ▸ List.mem_singleton_self _)
  obtain ⟨stands, -, on, off, clauses⟩ := switches p hp (Or.inr kind) "False" single
  have descending : Direction.parse? "DEsc" = some .descending := direction.trans (by decide)
  have falls : Text.foldsTo "False" "false" = true ∧ 'ſ' ∉ "False".toList := by decide
  obtain ⟨clause, plain, turned⟩ := clauses kind
  rw [sort, descending] at parsed
  rw [if_pos falls] at turned
  refine ⟨catalogue, c, p, hp, built, accepted, name, stands, ?_, off.mpr falls, ⟨ds, parsed, written⟩,
    clause, plain, turned⟩
  rw [Bool.eq_false_iff, ne_eq, on]
  decide

/-- An ascending order and a `false`, both with a long s: the order is descending, and the tickets
without messages are those with messages. -/
theorem words_misread : ∃ catalogue c, ∃ p ∈ DocumentType.ticket.definition.allParameters,
    Service.buildCatalogue Settings.forTesting .ticket = .ok catalogue ∧
    catalogue.accept [] {} [("sort", "createdDate"), ("sortOrder", "aſc"), ("hasMessages", "falſe")] =
      .ok c ∧
    given catalogue orderParameter
      [("sort", "createdDate"), ("sortOrder", "aſc"), ("hasMessages", "falſe")] = ["aſc"] ∧
    Direction.parse? "aſc" = none ∧ c.sort? = some "createdDate:desc" ∧
    p.name = "hasMessages" ∧ p.kind = .presence ∧
    given catalogue p [("sort", "createdDate"), ("sortOrder", "aſc"), ("hasMessages", "falſe")] =
      ["falſe"] ∧
    c.flag p.name = false ∧ Text.sameWord "falſe" "false" = false ∧
    ∃ clause, p.clause? "true" c = some clause ∧ p.clause? "falſe" c = some clause := by
  generalize named : [("sort", "createdDate"), ("sortOrder", "aſc"), ("hasMessages", "falſe")] = pairs
  have evaluated : passes (Service.buildCatalogue Settings.forTesting .ticket) (fun catalogue =>
      passes (catalogue.accept [] {} pairs) fun c =>
        decide (∃ p ∈ DocumentType.ticket.definition.allParameters,
          given catalogue orderParameter pairs = ["aſc"] ∧ c.sort? = some "createdDate:desc" ∧
          p.name = "hasMessages" ∧ p.kind = .presence ∧ given catalogue p pairs = ["falſe"] ∧
          c.flag p.name = false)) = true := by
    rw [Service.buildCatalogue_eq, ← named]
    decide +kernel
  obtain ⟨catalogue, built, outcome⟩ := exists_of_passes evaluated
  obtain ⟨c, accepted, read⟩ := exists_of_passes outcome
  obtain ⟨p, hp, order, sort, name, kind, single, off⟩ := of_decide_eq_true read
  obtain ⟨clause, build⟩ := (DocumentType.isSwitch_of_mem hp (Or.inr kind)).exists_clause kind c
  exact ⟨catalogue, c, p, hp, built, accepted, order, by decide, sort, name, kind, single, off,
    by decide, clause, build "true", build "falſe"⟩

end Catalogue

end FacetSearch
