import FacetSearch.Clause.Basic

/-!
# What clauses mean

An `Interpretation` says which leaf queries an object satisfies and which nested objects it holds;
`Clause.holds` extends it to all clauses by the engine's rules. Boosts change no match, and preferred
clauses are optional beside required ones.
-/

namespace FacetSearch

/-- The leaf queries as predicates on objects, and the objects within an object. -/
structure Interpretation (Object : Type) where
  term : String → String → Object → Bool
  words : String → String → Bool → Bool → Object → Bool
  phrase : String → String → Object → Bool
  acrossFields : String → List String → Object → Bool
  range : String → Bounds → Object → Bool
  present : String → Object → Bool
  given : Json → Object → Bool
  objects : String → Object → List Object

variable {Object : Type}

namespace Clause

mutual

def holds (i : Interpretation Object) : Clause → Object → Bool
  | everything, _ => true
  | nothing, _ => false
  | term field value, o => i.term field value o
  | boostedTerm field value _, o => i.term field value o
  | terms field values, o => values.any fun value => i.term field value o
  | words field text every fuzzy, o => i.words field text every fuzzy o
  | phrase field text _, o => i.phrase field text o
  | acrossFields text fields, o => i.acrossFields text (fields.map (·.path)) o
  | range field bounds, o => i.range field bounds o
  | present field, o => i.present field o
  | nested path clause, o => (i.objects path o).any (holds i clause)
  | allOf clauses, o => allHold i clauses o
  | anyOf clauses, o => someHolds i clauses o
  | noneOf clauses, o => !someHolds i clauses o
  | boosted clause _, o => holds i clause o
  | preferring required _, o => allHold i required o
  | given json, o => i.given json o

def allHold (i : Interpretation Object) : List Clause → Object → Bool
  | [], _ => true
  | clause :: rest, o => holds i clause o && allHold i rest o

def someHolds (i : Interpretation Object) : List Clause → Object → Bool
  | [], _ => false
  | clause :: rest, o => holds i clause o || someHolds i rest o

end

variable {i : Interpretation Object} {o : Object} {clause : Clause} {clauses : List Clause}

theorem allHold_iff : allHold i clauses o = true ↔ ∀ c ∈ clauses, holds i c o = true := by
  induction clauses with
  | nil => simp [allHold]
  | cons c rest ih => simp [allHold, ih]

theorem someHolds_iff : someHolds i clauses o = true ↔ ∃ c ∈ clauses, holds i c o = true := by
  induction clauses with
  | nil => simp [someHolds]
  | cons c rest ih => simp [someHolds, ih]

/-! ### Combined clauses -/

theorem holds_allOf : holds i (allOf clauses) o = true ↔ ∀ c ∈ clauses, holds i c o = true := by
  rw [holds, allHold_iff]

theorem holds_anyOf : holds i (anyOf clauses) o = true ↔ ∃ c ∈ clauses, holds i c o = true := by
  rw [holds, someHolds_iff]

theorem holds_noneOf :
    holds i (noneOf clauses) o = true ↔ ¬∃ c ∈ clauses, holds i c o = true := by
  rw [holds, Bool.not_eq_true', ← Bool.not_eq_true, someHolds_iff]

theorem holds_nested {path : String} :
    holds i (nested path clause) o = true ↔ ∃ x ∈ i.objects path o, holds i clause x = true := by
  rw [holds, List.any_eq_true]

theorem holds_boosted {boost : Boost} :
    holds i (boosted clause boost) o = true ↔ holds i clause o = true := by
  rw [holds]

theorem holds_all? (h : all? clauses = some clause) :
    holds i clause o = true ↔ ∀ c ∈ clauses, holds i c o = true := by
  match clauses, h with
  | [c], h =>
    obtain rfl := Option.some.inj h
    simp
  | a :: b :: rest, h =>
    obtain rfl := Option.some.inj h
    exact holds_allOf

theorem holds_any? (h : any? clauses = some clause) :
    holds i clause o = true ↔ ∃ c ∈ clauses, holds i c o = true := by
  match clauses, h with
  | [c], h =>
    obtain rfl := Option.some.inj h
    simp
  | a :: b :: rest, h =>
    obtain rfl := Option.some.inj h
    exact holds_anyOf

theorem combine?_eq_none_iff {operator : Operator} : combine? operator clauses = none ↔ clauses = [] := by
  unfold combine?
  by_cases h : clauses = []
  · simp [h]
  · rw [if_neg (by simpa using h)]
    cases operator <;> simp [all?_eq_none_iff, any?_eq_none_iff, h]

end Clause

/-- What an operator makes of a condition on single values. -/
def Operator.Combined (operator : Operator) (values : List α) (P : α → Prop) : Prop :=
  match operator with
  | .anyOf => ∃ v ∈ values, P v
  | .notAllOf => ¬∀ v ∈ values, P v
  | .notAnyOf => ¬∃ v ∈ values, P v
  | _ => ∀ v ∈ values, P v

namespace Clause

theorem holds_combine? {i : Interpretation Object} {o : Object} {clause : Clause}
    {operator : Operator} {clauses : List Clause} (h : combine? operator clauses = some clause) :
    holds i clause o = true ↔ operator.Combined clauses fun c => holds i c o = true := by
  unfold combine? at h
  split at h
  · cases h
  · cases operator with
    | anyOf => exact holds_any? h
    | notAllOf =>
      obtain rfl := Option.some.inj h
      simp only [holds_noneOf, List.mem_singleton, exists_eq_left, holds_allOf, Operator.Combined]
    | notAnyOf =>
      obtain rfl := Option.some.inj h
      exact holds_noneOf
    | _ => exact holds_all? h

end Clause
end FacetSearch
