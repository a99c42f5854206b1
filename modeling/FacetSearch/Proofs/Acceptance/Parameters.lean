import FacetSearch.Proofs.Acceptance.Gathering

/-!
# Parameters of a catalogue

Whatever definition a catalogue was built of, the criteria that it accepts consist of parameters of that
definition, and what is given for one name does not depend on what the last stages do to others.
-/

namespace FacetSearch

open Acceptance

variable {catalogue : Catalogue} {c c' : Criteria} {e : Entry} {extra : List String} {limits : Limits}
  {pairs : List (String × String)} {name : String}

/-! ### Built catalogues -/

namespace Catalogue

/-- A catalogue that some definition was built to, whatever page size it has. -/
inductive IsBuilt : Catalogue → Prop
  | build {d : Definition} {apiHost : String} {catalogue : Catalogue}
      (built : Catalogue.build d apiHost = .ok catalogue) : IsBuilt catalogue
  | withDefaultSize {catalogue : Catalogue} (built : IsBuilt catalogue) (size : Nat) :
      IsBuilt (catalogue.withDefaultSize size)

theorem exists_of_mapM_ok {f : α → Except ε β} {xs : List α} {ys : List β} {y : β}
    (read : xs.mapM f = .ok ys) (member : y ∈ ys) : ∃ x ∈ xs, f x = .ok y := by
  induction xs generalizing ys with
  | nil =>
    obtain rfl := Except.ok.inj read
    cases member
  | cons x rest ih =>
    rw [List.mapM_cons] at read
    obtain ⟨first, one, read⟩ := bind_ok read
    obtain ⟨others, more, read⟩ := bind_ok read
    obtain rfl := Except.ok.inj read
    rcases List.mem_cons.mp member with rfl | later
    · exact ⟨x, List.mem_cons_self, one⟩
    · obtain ⟨x', hx, found⟩ := ih more later
      exact ⟨x', List.mem_cons_of_mem x hx, found⟩

theorem parameter_of_readParameter {p q : Parameter} {spelling : Pattern} {value : String × Pattern}
    (read : readParameter p = .ok (some (spelling, q), value)) : q = p := by
  unfold readParameter at read
  simp only at read
  split at read
  · obtain ⟨_, none_, read⟩ := bind_ok read
    obtain rfl := Except.ok.inj none_
    obtain ⟨_, -, read⟩ := bind_ok read
    cases read
  · obtain ⟨spelled, first, read⟩ := bind_ok read
    obtain ⟨_, -, read⟩ := bind_ok read
    cases pattern : readPattern p.name (Pattern.wholeAnyCase? p.spelling) with
    | error _ =>
      rw [pattern] at first
      cases first
    | ok _ =>
      rw [pattern] at first
      cases first
      cases read
      rfl

theorem IsBuilt.listed (built : catalogue.IsBuilt) :
    ∀ s ∈ catalogue.spellings, s.2 ∈ catalogue.definition.allParameters := by
  induction built with
  | withDefaultSize _ _ ih => exact ih
  | build built =>
    obtain ⟨parameters, read, built⟩ := bind_ok built
    obtain ⟨sorts, -, built⟩ := bind_ok built
    simp only at built
    split at built
    · cases built
    · split at built
      · cases built
      · obtain rfl := Except.ok.inj built
        intro s member
        obtain ⟨⟨_, value⟩, hp, rfl⟩ := List.mem_filterMap.mp member
        obtain ⟨p, listed, same⟩ := exists_of_mapM_ok read hp
        rw [parameter_of_readParameter same]
        exact listed

theorem IsBuilt.resolve_listed (built : catalogue.IsBuilt)
    (known : (catalogue.resolve name).isUnknown = false) :
    catalogue.resolve name ∈ catalogue.definition.allParameters := by
  rw [resolve] at known ⊢
  split
  · rename_i s found
    exact built.listed s (List.mem_of_find?_eq_some found)
  · rename_i none_
    simp only [none_] at known
    cases known

theorem mem_of_parameter? {p : Parameter} (found : catalogue.parameter? name = some p) :
    p ∈ catalogue.definition.allParameters ∧ p.name = name :=
  ⟨List.mem_of_find?_eq_some found, by simpa using List.find?_some found⟩

end Catalogue

namespace Acceptance

/-! ### Accepted parameters -/

def AreListed (catalogue : Catalogue) (c : Criteria) : Prop :=
  ∀ e ∈ c.entries, e.parameter ∈ catalogue.definition.allParameters

namespace AreListed

variable {p : Parameter} {value : String}

theorem merge (listed : AreListed catalogue c) (hp : p ∈ catalogue.definition.allParameters) :
    AreListed catalogue (c.merge p value) :=
  Criteria.forall_merge listed hp fun e he _ => listed e he

theorem set (listed : AreListed catalogue c) (hp : p ∈ catalogue.definition.allParameters) :
    AreListed catalogue (c.set p value) :=
  Criteria.forall_set listed hp fun e he _ => listed e he

theorem remove (listed : AreListed catalogue c) (name : String) : AreListed catalogue (c.remove name) :=
  fun e he => listed e (Criteria.mem_of_mem_remove he)

theorem gather (built : catalogue.IsBuilt) (extra : List String) (pairs : List (String × String)) :
    AreListed catalogue (gather catalogue extra pairs).criteria := by
  induction pairs using List.reverseRecOn with
  | nil => exact fun e he => absurd he List.not_mem_nil
  | append_singleton front pair ih =>
    rw [gather_concat]
    by_cases idle : (catalogue.resolve pair.1).isUnknown = true ∨ Text.trim pair.2 = ""
    · rw [criteria_add_of_not idle]
      exact ih
    · obtain ⟨known, filled⟩ := not_or.mp idle
      have known := Bool.eq_false_iff.mpr known
      rw [add_of_known known filled]
      exact ih.merge (built.resolve_listed known)

theorem addDefaults (listed : AreListed catalogue c) : AreListed catalogue (addDefaults catalogue c) := by
  unfold Acceptance.addDefaults
  generalize absent c = names
  induction names generalizing c with
  | nil => exact listed
  | cons name rest ih =>
    rw [List.foldl_cons]
    refine ih ?_
    unfold addDefault
    split
    · rename_i p value found _
      exact listed.merge (Catalogue.mem_of_parameter? found).1
    · exact listed

end AreListed

/-- What settling the order does to the entries: it drops the direction and may write the order out. -/
theorem settleSort_changes (sorting : settleSort catalogue c = .ok c') : c' = c.remove Control.order ∨
    ∃ p value, catalogue.parameter? Control.sort = some p ∧
      c' = (c.remove Control.order).set p value := by
  unfold settleSort at sorting
  simp only [Criteria.take_eq] at sorting
  split at sorting
  · exact Or.inl (Except.ok.inj sorting).symm
  · split at sorting
    · cases sorting
    · split at sorting
      · rename_i p found
        exact Or.inr ⟨p, _, found, (Except.ok.inj sorting).symm⟩
      · exact Or.inl (Except.ok.inj sorting).symm

/-- What settling the page does to the entries: it drops the page and may set the offset. -/
theorem settlePage_changes (catalogue : Catalogue) (c : Criteria) : settlePage catalogue c = c ∨
    settlePage catalogue c = c.remove Control.page ∨
    ∃ p value, catalogue.parameter? Control.offset = some p ∧
      settlePage catalogue c = (c.remove Control.page).set p value := by
  unfold settlePage
  split
  · exact Or.inl rfl
  · split
    · rename_i p found
      exact Or.inr (Or.inr ⟨p, _, found, rfl⟩)
    · exact Or.inr (Or.inl rfl)

theorem entry?_settlePage (c : Criteria) (page : name ≠ Control.page) (offset : name ≠ Control.offset) :
    Criteria.entry? (settlePage catalogue c) name = c.entry? name := by
  rcases settlePage_changes catalogue c with same | same | ⟨p, value, found, same⟩
  · rw [same]
  · rw [same, Criteria.entry?_remove_of_ne page]
  · have other : name ≠ p.name := (Catalogue.mem_of_parameter? found).2 ▸ offset
    rw [same, Criteria.set, Criteria.entry?_modifyFor_of_ne other, Criteria.entry?_remove_of_ne page]

theorem listed_of_accept (built : catalogue.IsBuilt)
    (accepted : catalogue.accept extra limits pairs = .ok c) : AreListed catalogue c := by
  obtain ⟨collected, sorted, rfl, -, -, -, sorting, -, -, rfl⟩ := accept_eq_ok_iff.mp accepted
  have listed := (AreListed.gather built extra pairs).addDefaults
  have ordered : AreListed catalogue sorted := by
    rcases settleSort_changes sorting with rfl | ⟨p, value, found, rfl⟩
    · exact listed.remove _
    · exact (listed.remove _).set (Catalogue.mem_of_parameter? found).1
  have paged : AreListed catalogue (settlePage catalogue sorted) := by
    rcases settlePage_changes catalogue sorted with same | same | ⟨p, value, found, same⟩
    · rwa [same]
    · rw [same]
      exact ordered.remove _
    · rw [same]
      exact (ordered.remove _).set (Catalogue.mem_of_parameter? found).1
  intro e he
  rw [settle_eq, settleEntries] at he
  rcases Criteria.mem_entries.mp he with he | he
  · obtain ⟨e, member, rfl⟩ := List.mem_map.mp he
    rw [settleEntry_parameter]
    exact paged e (Criteria.mem_entries.mpr (Or.inl member))
  · obtain ⟨e, member, rfl⟩ := List.mem_map.mp he
    rw [settleEntry_parameter]
    exact paged e (Criteria.mem_entries.mpr (Or.inr member))

end Acceptance

end FacetSearch
