import FacetSearch.Proofs.Acceptance.Alike

/-!
# Rearranged requests

The order of a request tells apart only the values of one parameter. Pairs in another order that keep
the order of these are refused for one kind of offence or accepted with the same entries.
-/

namespace FacetSearch.Acceptance

variable {dt : DocumentType} {apiHost : String} {catalogue : Catalogue} {c c' : Criteria}
  {p : Parameter} {extra : List String} {limits : Limits} {pairs pairs' : List (String × String)}

/-- The pairs of a parameter that count, in their order; a blank value of a known name does not. -/
def counting (catalogue : Catalogue) (p : Parameter) (pairs : List (String × String)) :
    List (String × String) :=
  pairs.filter fun pair => catalogue.resolve pair.1 = p ∧ (p.isUnknown = true ∨ Text.trim pair.2 ≠ "")

/-- The same pairs in another order, where those of one parameter keep theirs and blank values come and
go. All unknown names count as one parameter. -/
def IsRearranged (catalogue : Catalogue) (pairs pairs' : List (String × String)) : Prop :=
  ∀ p, counting catalogue p pairs = counting catalogue p pairs'

namespace IsRearranged

variable {front rest : List (String × String)} {a b : String × String}

theorem trans {others : List (String × String)} (first : IsRearranged catalogue pairs others)
    (second : IsRearranged catalogue others pairs') : IsRearranged catalogue pairs pairs' :=
  fun p => (first p).trans (second p)

theorem swap (apart : catalogue.resolve a.1 ≠ catalogue.resolve b.1) :
    IsRearranged catalogue (front ++ a :: b :: rest) (front ++ b :: a :: rest) := by
  intro p
  have one : counting catalogue p [a] = [] ∨ counting catalogue p [b] = [] := by
    by_cases own : catalogue.resolve a.1 = p
    · have other : catalogue.resolve b.1 ≠ p := fun same => apart (own.trans same.symm)
      exact Or.inr (by simp [counting, other])
    · exact Or.inl (by simp [counting, own])
  have each : ∀ x y : String × String, counting catalogue p (front ++ x :: y :: rest) =
      counting catalogue p front ++ (counting catalogue p [x] ++ (counting catalogue p [y] ++
        counting catalogue p rest)) := by
    intro x y
    rw [counting, counting, counting, counting, counting, ← List.filter_append, ← List.filter_append,
      ← List.filter_append]
    rfl
  rw [each, each]
  rcases one with none_ | none_
  · rw [none_, List.nil_append, List.nil_append]
  · rw [none_, List.nil_append, List.nil_append]

theorem blank (known : (catalogue.resolve a.1).isUnknown = false) (empty : Text.trim a.2 = "") :
    IsRearranged catalogue (front ++ rest) (front ++ a :: rest) := by
  intro p
  have skipped : counting catalogue p (a :: rest) = counting catalogue p rest := by
    apply List.filter_cons_of_neg
    simp only [decide_eq_true_eq, not_and_or, not_or]
    by_cases own : catalogue.resolve a.1 = p
    · exact Or.inr ⟨by rw [← own, known]; decide, by simpa using empty⟩
    · exact Or.inl own
  rw [counting, counting, List.filter_append, List.filter_append]
  exact congrArg _ skipped.symm

end IsRearranged

theorem given_eq (known : p.isUnknown = false) : given catalogue p pairs =
    (counting catalogue p pairs).map fun pair => decoded p (Text.trim pair.2) := by
  rw [given, counting]
  simp only [known, Bool.false_eq_true, false_or]

section

variable (h : catalogue.IsFor dt apiHost)
include h

theorem unknown_eq (pairs : List (String × String)) :
    (gather catalogue extra pairs).unknown = (Criteria.requiring
      ((counting catalogue .unknown pairs).map (·.1))).required := by
  have same : ∀ pair : String × String, (catalogue.resolve pair.1).isUnknown =
      decide (catalogue.resolve pair.1 = .unknown ∧
        (Parameter.isUnknown .unknown = true ∨ Text.trim pair.2 ≠ "")) := by
    intro pair
    rcases h.resolve_eq_unknown_or_mem pair.1 with unknown | listed
    · rw [unknown]
      exact (decide_eq_true ⟨rfl, Or.inl rfl⟩).symm
    · have known := (DocumentType.isRegular_of_mem listed).known
      rw [known]
      refine (decide_eq_false fun both => ?_).symm
      rw [both.1] at known
      cases known
  rw [unknown_gather, counting]
  simp only [same]

/-- Rearranged requests are refused for one kind of offence, or accepted with the same entries. -/
theorem accept_rearranged (rearranged : IsRearranged catalogue pairs pairs') :
    Matched (fun c c' => c.IsPlaced dt ∧ c'.IsPlaced dt ∧ ∀ name, c.entry? name = c'.entry? name)
      (catalogue.accept extra limits pairs) (catalogue.accept extra limits pairs') := by
  have given_ : ∀ p ∈ dt.definition.allParameters,
      given catalogue p pairs = given catalogue p pairs' := by
    intro p hp
    have known := (DocumentType.isRegular_of_mem hp).known
    rw [given_eq known, given_eq known, rearranged p]
  have alike := isAlike_gather h extra (fun p hp _ => given_ p hp) fun p hp => by rw [given_ p hp]
  have entry : ∀ p ∈ dt.definition.allParameters, (gather catalogue extra pairs).criteria.entry? p.name =
      (gather catalogue extra pairs').criteria.entry? p.name := by
    intro p hp
    rw [entry?_gather h extra pairs hp, entry?_gather h extra pairs' hp, given_ p hp]
  have unknown : (gather catalogue extra pairs).unknown = (gather catalogue extra pairs').unknown := by
    rw [unknown_eq h, unknown_eq h, rearranged .unknown]
  refine (accept_matched h alike (by rw [unknown]) ?_).mono ?_
  · rw [alike.placed.forall_search, alike.placed'.forall_search]
    exact forall₃_congr fun p hp _ => by rw [entry p hp]
  · rintro c c' - - ⟨final, settled⟩
    refine ⟨final.placed, final.placed', final.placed.forall_entry? (f := id) final.placed' ?_⟩
    intro p hp
    by_cases control : p.scope = .control
    · exact final.control p hp control
    · rw [(settled p hp control).1, (settled p hp control).2, entry p hp]

end

end FacetSearch.Acceptance
