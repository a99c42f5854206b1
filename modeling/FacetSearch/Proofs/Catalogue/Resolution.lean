import FacetSearch.Proofs.Catalogue.Shipped
import FacetSearch.Proofs.Text.Folding

/-!
# Resolution of names

A name stands for at most one parameter and for at most one sort key, whatever the order of the
tables. Separators and the case of ASCII letters make no difference to what it stands for.
-/

namespace FacetSearch

/-! ### Lookups in a table without ambiguity -/

namespace IsUnambiguous

variable {α : Type} {name : α → String} {entries order : List (Pattern × α)}

theorem length_filter_le (h : IsUnambiguous name entries) (s : String) :
    (entries.filter fun e => e.1.occursIn s).length ≤ 1 := by
  have apart := h.distinct.filter fun e => e.1.occursIn s
  have spelled : ∀ e ∈ entries.filter fun e => e.1.occursIn s, e.1.occursIn s = true :=
    fun e he => (List.mem_filter.mp he).2
  generalize entries.filter (fun e => e.1.occursIn s) = found at apart spelled
  match found with
  | [] => exact Nat.zero_le 1
  | [_] => exact Nat.le_refl 1
  | e :: f :: _ =>
    obtain ⟨first, others⟩ := List.forall_mem_cons.mp spelled
    have unspelled := (List.pairwise_cons.mp apart).1 f List.mem_cons_self s first
    rw [others f List.mem_cons_self] at unspelled
    cases unspelled

theorem find?_perm (h : IsUnambiguous name entries) (same : order.Perm entries) (s : String) :
    order.find? (fun e => e.1.occursIn s) = entries.find? fun e => e.1.occursIn s := by
  rw [← List.head?_filter, ← List.head?_filter]
  have few := h.length_filter_le s
  have filtered := same.filter fun e => e.1.occursIn s
  generalize entries.filter (fun e => e.1.occursIn s) = found at few filtered
  match found with
  | [] => rw [filtered.eq_nil]
  | [_] => rw [filtered.eq_singleton]

theorem find?_congr (h : IsUnambiguous name entries) {s t : String}
    (same : Text.lower s = Text.lower t) :
    entries.find? (fun e => e.1.occursIn s) = entries.find? fun e => e.1.occursIn t := by
  rw [← List.head?_filter, ← List.head?_filter]
  exact congrArg List.head? (List.filter_congr fun e he =>
    h.folded e he s t (Text.map_fold_of_lower same))

end IsUnambiguous

/-! ### The tables of a catalogue -/

namespace Definition

variable {d : Definition}

/-- The pattern beside a parameter is the one that its spelling denotes. -/
theorem IsUnambiguous.spelling_of_mem (h : d.IsUnambiguous) :
    ∀ e ∈ d.spellings, Pattern.wholeAnyCase? e.2.spelling = some e.1 := by
  intro e he
  have read := h.parameters.apart.ne_nothing he
  obtain ⟨p, -, same⟩ := List.mem_filterMap.mp he
  split at same
  · cases same
  · obtain rfl := Option.some.inj same
    exact wholeAnyCase?_of_ne read

theorem IsUnambiguous.key_of_mem (h : d.IsUnambiguous) :
    ∀ e ∈ d.sortTable.entries, Pattern.wholeAnyCase? e.2.spelling = some e.1 := by
  intro e he
  have read := h.keys.apart.ne_nothing he
  obtain ⟨k, -, rfl⟩ := List.mem_map.mp he
  exact wholeAnyCase?_of_ne read

end Definition

theorem Service.tables_of_buildCatalogue {settings : Settings} {dt : DocumentType}
    {catalogue : Catalogue} (built : buildCatalogue settings dt = .ok catalogue) :
    catalogue.spellings = dt.definition.spellings ∧ catalogue.sorts = dt.definition.sortTable := by
  rw [buildCatalogue_eq] at built
  obtain rfl := Except.ok.inj built
  unfold catalogueOf
  cases settings.defaultPageSize with
  | none => exact ⟨rfl, rfl⟩
  | some size => exact ⟨rfl, rfl⟩

namespace Catalogue

variable {settings : Settings} {dt : DocumentType} {catalogue : Catalogue}

theorem IsFor.resolve_eq_unknown_iff {apiHost : String} (h : catalogue.IsFor dt apiHost)
    (name : String) : catalogue.resolve name = .unknown ↔
      ∀ e ∈ catalogue.spellings, e.1.occursIn (plainName (Text.trim name)) = false := by
  rw [resolve]
  cases found : catalogue.spellings.find? fun e => e.1.occursIn (plainName (Text.trim name)) with
  | none => simpa using found
  | some e =>
    have member := List.mem_of_find?_eq_some found
    have known : e.2 ≠ .unknown := by
      have regular := DocumentType.isRegular_of_mem (h.spellings ▸ List.mem_map_of_mem member)
      intro unknown
      rw [unknown] at regular
      exact Bool.noConfusion regular.known
    refine iff_of_false known fun none_ => ?_
    have spelled := List.find?_some found
    rw [none_ e member] at spelled
    cases spelled

/-- No text is spelled by two parameters or by two sort keys. So the order of the tables is of no
account, a name is unknown exactly if no pattern matches it, every name of the catalogue stands for
its own entry, and names that differ in separators and letter case alone stand for the same. -/
theorem resolve_unambiguous (built : Service.buildCatalogue settings dt = .ok catalogue) :
    (catalogue.spellings.map (·.2) = dt.definition.allParameters.filter (·.scope != .internal) ∧
      (∀ e ∈ catalogue.spellings, Pattern.wholeAnyCase? e.2.spelling = some e.1) ∧
      (∀ text, (catalogue.spellings.filter fun e => e.1.occursIn text).length ≤ 1) ∧
      (∀ order, order.Perm catalogue.spellings → ∀ name,
        Catalogue.resolve { catalogue with spellings := order } name = catalogue.resolve name) ∧
      (∀ name, catalogue.resolve name = .unknown ↔
        ∀ e ∈ catalogue.spellings, e.1.occursIn (plainName (Text.trim name)) = false) ∧
      (∀ p ∈ dt.definition.allParameters, p.scope ≠ .internal → catalogue.resolve p.name = p) ∧
      ∀ a b, Text.lower (plainName (Text.trim a)) = Text.lower (plainName (Text.trim b)) →
        catalogue.resolve a = catalogue.resolve b) ∧
    (catalogue.sorts.entries.map (·.2) = dt.definition.sortKeys ∧
      (∀ e ∈ catalogue.sorts.entries, Pattern.wholeAnyCase? e.2.spelling = some e.1) ∧
      (∀ text, (catalogue.sorts.entries.filter fun e => e.1.occursIn text).length ≤ 1) ∧
      (∀ order, order.Perm catalogue.sorts.entries → ∀ name,
        SortTable.resolve? ⟨order⟩ name = catalogue.sorts.resolve? name) ∧
      (∀ name, catalogue.sorts.resolve? name = none ↔
        ∀ e ∈ catalogue.sorts.entries, e.1.occursIn (plainName name) = false) ∧
      (∀ k ∈ dt.definition.sortKeys, catalogue.sorts.resolve? k.name = some k) ∧
      ∀ a b, Text.lower (plainName a) = Text.lower (plainName b) →
        catalogue.sorts.resolve? a = catalogue.sorts.resolve? b) := by
  have own := Service.isFor_of_buildCatalogue built
  have unambiguous := dt.isUnambiguous_definition
  obtain ⟨spellings, sorts⟩ := Service.tables_of_buildCatalogue built
  have parameters := unambiguous.parameters
  have keys := unambiguous.keys
  rw [← spellings] at parameters
  rw [← sorts] at keys
  refine ⟨⟨?_, spellings ▸ unambiguous.spelling_of_mem, parameters.length_filter_le, ?_,
    own.resolve_eq_unknown_iff, fun p hp _ => own.resolve_name hp, ?_⟩,
    own.sorts, sorts ▸ unambiguous.key_of_mem, keys.length_filter_le, ?_, ?_,
    fun k hk => own.resolve?_name hk, ?_⟩
  · rw [own.spellings, eq_comm, List.filter_eq_self]
    exact fun p hp => bne_iff_ne.mpr (DocumentType.isRegular_of_mem hp).named
  · intro order same name
    simp only [resolve, parameters.find?_perm same]
  · intro a b same
    simp only [resolve, parameters.find?_congr same]
  · intro order same name
    simp only [SortTable.resolve?, keys.find?_perm same]
  · intro name
    simp only [SortTable.resolve?, Option.map_eq_none_iff, List.find?_eq_none, Bool.not_eq_true]
  · intro a b same
    simp only [SortTable.resolve?, keys.find?_congr same]

theorem resolve_unambiguous_tickets :
    ∃ catalogue, Service.buildCatalogue Settings.forTesting .ticket = .ok catalogue ∧
      catalogue.resolve " SI-ze_ " = Control.sizeParameter ∧
      catalogue.sorts.resolve? "created_DATE" = catalogue.sorts.resolve? "createdDate" := by
  have built := Service.buildCatalogue_eq Settings.forTesting .ticket
  obtain ⟨⟨-, -, -, -, -, named, spelled⟩, -, -, -, -, -, -, ordered⟩ := resolve_unambiguous built
  have size := named _ (DocumentType.size_mem .ticket) (by decide)
  refine ⟨_, built, ?_, ordered _ _ (by decide +kernel)⟩
  rw [spelled " SI-ze_ " Control.sizeParameter.name (by decide +kernel), size]

end Catalogue
end FacetSearch
