import Mathlib.Data.List.Induction
import FacetSearch.Proofs.Acceptance.Stages

/-!
# Gathered values

Under the name of a parameter stand the values that the pairs give for it, in their order and joined
by its delimiter. Pairs of other names leave it alone.
-/

namespace FacetSearch

namespace Parameter

variable {p : Parameter}

theorem elements_append (p : Parameter) (a b : String) :
    p.elements (a ++ p.operator.delimiter.toString ++ b) = p.elements a ++ p.elements b := by
  rw [elements, elements, elements, Text.split_delimited, List.map_append]

theorem elements_join {values : List String} (some : values ≠ []) :
    p.elements (Text.join p.operator.delimiter.toString values) = values.flatMap p.elements := by
  induction values using List.reverseRecOn with
  | nil => exact absurd rfl some
  | append_singleton front value ih =>
    rw [List.flatMap_append, List.flatMap_singleton]
    by_cases none_ : front = []
    · rw [none_, List.nil_append, Text.join_singleton, List.flatMap_nil, List.nil_append]
    · rw [Text.join_concat none_, elements_append, ih none_]

theorem length_elements_pos (p : Parameter) (value : String) : 0 < (p.elements value).length := by
  rw [elements, List.length_map]
  exact List.length_pos_iff.mpr (Text.split_ne_nil _ value)

theorem length_le_elements_join (values : List String) :
    values.length ≤ (p.elements (Text.join p.operator.delimiter.toString values)).length := by
  have counted : ∀ values : List String, values.length ≤ (values.flatMap p.elements).length := by
    intro values
    induction values with
    | nil => exact Nat.le_refl 0
    | cons value rest ih =>
      have := p.length_elements_pos value
      rw [List.flatMap_cons, List.length_append, List.length_cons]
      omega
  by_cases none_ : values = []
  · rw [none_]
    exact Nat.zero_le _
  · rw [elements_join none_]
    exact counted values

end Parameter

namespace Acceptance

variable {dt : DocumentType} {apiHost : String} {catalogue : Catalogue} {c : Criteria}
  {extra : List String} {limits : Limits} {pairs : List (String × String)} {p : Parameter}
  {pair : String × String}

/-- The values that the pairs give for a parameter; a blank one counts for nothing. -/
def given (catalogue : Catalogue) (p : Parameter) (pairs : List (String × String)) : List String :=
  (pairs.filter fun pair => catalogue.resolve pair.1 = p ∧ Text.trim pair.2 ≠ "").map fun pair =>
    decoded p (Text.trim pair.2)

theorem given_append (more : List (String × String)) :
    given catalogue p (pairs ++ more) = given catalogue p pairs ++ given catalogue p more := by
  rw [given, List.filter_append, List.map_append]
  rfl

theorem given_singleton : given catalogue p [pair] =
    if catalogue.resolve pair.1 = p ∧ Text.trim pair.2 ≠ "" then [decoded p (Text.trim pair.2)]
    else [] := by
  rw [given, List.filter_cons, List.filter_nil]
  by_cases counts : catalogue.resolve pair.1 = p ∧ Text.trim pair.2 ≠ ""
  · rw [if_pos counts, if_pos (decide_eq_true counts), List.map_singleton]
  · rw [if_neg counts, if_neg (by simpa using counts), List.map_nil]

theorem trimmed_of_mem_given {value : String} (plain : p.decoded = false)
    (member : value ∈ given catalogue p pairs) : Text.trim value = value := by
  obtain ⟨pair, -, rfl⟩ := List.mem_map.mp member
  rw [decoded, plain, if_neg Bool.false_ne_true]
  exact Text.trimmed_trim pair.2

/-- A parameter that takes one value is given at most once. -/
theorem length_given_le_one (single : takesOneValue p = true) (other : p.operator ≠ .between)
    (sound : issue? catalogue
      ⟨p, Text.join p.operator.delimiter.toString (given catalogue p pairs)⟩ = none) :
    (given catalogue p pairs).length ≤ 1 := by
  have few := (countFault?_eq_none_iff other).mp (issue?_eq_none_iff.mp sound).1 single
  exact Nat.le_trans (Parameter.length_le_elements_join _) few

theorem gather_concat (pairs : List (String × String)) (pair : String × String) :
    gather catalogue extra (pairs ++ [pair]) = (gather catalogue extra pairs).add catalogue pair := by
  rw [gather, List.foldl_append]
  rfl

theorem required_requiring_concat (names : List String) (name : String) :
    (Criteria.requiring (names ++ [name])).required =
      if (Criteria.requiring names).required.contains name then (Criteria.requiring names).required
      else (Criteria.requiring names).required ++ [name] := by
  rw [Criteria.requiring, List.foldl_append]
  rfl

/-- One more value of a parameter that may have some. -/
def extended (p : Parameter) (old : Option String) (value : String) : String :=
  match old with
  | some old => old ++ p.operator.delimiter.toString ++ value
  | none => value

theorem merge_eq (c : Criteria) (p : Parameter) (value : String) :
    c.merge p value = c.modifyFor p (Entry.upsert p (extended p · value)) := rfl

theorem add_of_known {g : Gathered} (known : (catalogue.resolve pair.1).isUnknown = false)
    (filled : Text.trim pair.2 ≠ "") : g.add catalogue pair =
      { g with criteria := g.criteria.merge (catalogue.resolve pair.1)
                 (decoded (catalogue.resolve pair.1) (Text.trim pair.2)) } := by
  unfold Gathered.add
  simp only [known, Bool.false_eq_true, if_false, if_neg filled]

theorem criteria_add_of_not {g : Gathered}
    (idle : (catalogue.resolve pair.1).isUnknown = true ∨ Text.trim pair.2 = "") :
    (g.add catalogue pair).criteria = g.criteria := by
  unfold Gathered.add
  simp only
  split
  · split
    · rfl
    · rfl
  · rename_i known
    rw [if_pos (idle.resolve_left known)]

section

variable (h : catalogue.IsFor dt apiHost)
include h

/-- A pair changes the entry of its own parameter alone. -/
theorem entry?_add {g : Gathered} (placed : g.criteria.IsPlaced dt)
    (hp : p ∈ dt.definition.allParameters) : (g.add catalogue pair).criteria.entry? p.name =
      match given catalogue p [pair] with
      | [] => g.criteria.entry? p.name
      | value :: _ => some ⟨p, extended p (g.criteria.get? p.name) value⟩ := by
  rw [given_singleton]
  by_cases idle : (catalogue.resolve pair.1).isUnknown = true ∨ Text.trim pair.2 = ""
  · have other : ¬(catalogue.resolve pair.1 = p ∧ Text.trim pair.2 ≠ "") := by
      rintro ⟨rfl, filled⟩
      have known := (DocumentType.isRegular_of_mem hp).known
      exact idle.elim (fun unknown => absurd (known.symm.trans unknown) Bool.false_ne_true) filled
    rw [criteria_add_of_not idle, if_neg other]
  · rw [not_or, Bool.not_eq_true] at idle
    obtain ⟨known, filled⟩ := idle
    rw [add_of_known known filled, merge_eq]
    by_cases own : catalogue.resolve pair.1 = p
    · rw [if_pos ⟨own, filled⟩, own]
      exact placed.entry?_modifyFor_self hp
    · rw [if_neg fun both => own both.1]
      apply Criteria.entry?_modifyFor_of_ne
      intro same
      rcases h.resolve_eq_unknown_or_mem pair.1 with unknown | listed
      · rw [unknown] at known
        cases known
      · exact own (DocumentType.eq_of_name listed hp same.symm)

theorem entry?_gather (extra : List String) (pairs : List (String × String))
    (hp : p ∈ dt.definition.allParameters) :
    (gather catalogue extra pairs).criteria.entry? p.name =
      if given catalogue p pairs = [] then none
      else some ⟨p, Text.join p.operator.delimiter.toString (given catalogue p pairs)⟩ := by
  induction pairs using List.reverseRecOn with
  | nil => rfl
  | append_singleton front pair ih =>
    have placed := (isCollected_gather h extra front).placed
    rw [gather_concat, entry?_add h placed hp, given_append]
    cases new : given catalogue p [pair] with
    | nil => rw [List.append_nil, ih]
    | cons value rest =>
      obtain rfl : rest = [] := by
        rw [given_singleton] at new
        split at new
        · exact (List.cons.inj new).2.symm
        · cases new
      rw [if_neg (by simp), Criteria.get?, ih]
      by_cases none_ : given catalogue p front = []
      · rw [if_pos none_, none_, List.nil_append, Text.join_singleton]
        rfl
      · rw [if_neg none_, Text.join_concat none_]
        rfl

omit h in
theorem unknown_gather (extra : List String) (pairs : List (String × String)) :
    (gather catalogue extra pairs).unknown = (Criteria.requiring
      ((pairs.filter fun pair => (catalogue.resolve pair.1).isUnknown).map (·.1))).required := by
  induction pairs using List.reverseRecOn with
  | nil => rfl
  | append_singleton front pair ih =>
    rw [gather_concat, List.filter_append, List.map_append, List.filter_cons, List.filter_nil,
      Gathered.add]
    simp only
    split
    · rw [List.map_singleton, required_requiring_concat, ← ih]
      split
      · rfl
      · rfl
    · rw [List.map_nil, List.append_nil, ← ih]
      split
      · rfl
      · rfl

end

end Acceptance

end FacetSearch
