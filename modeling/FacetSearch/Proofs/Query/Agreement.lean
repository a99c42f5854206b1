import Mathlib.Data.List.Basic
import FacetSearch.Proofs.Criteria.Lookup
import FacetSearch.Query

/-!
# Queries of criteria that agree

A query depends on the entries of the search in their order and on what stands under each name. Where
criteria differ in the offset and the cursor alone, so do their queries.
-/

namespace FacetSearch

open Criteria (IsPlaced)

/-- The names that only say where a page starts. -/
def Control.Positional (name : String) : Prop := name = Control.offset ∨ name = Control.searchAfter

namespace Criteria

variable {c c' : Criteria} {name : String}

/-- Criteria that differ at most in where the page starts. -/
structure Agree (c c' : Criteria) : Prop where
  search : c.search = c'.search
  entry? : ∀ name, ¬ Control.Positional name → c.entry? name = c'.entry? name

theorem Agree.refl (c : Criteria) : Agree c c := ⟨rfl, fun _ _ => rfl⟩

theorem Agree.trans {c'' : Criteria} (agree : Agree c c') (further : Agree c' c'') : Agree c c'' :=
  ⟨agree.search.trans further.search,
    fun name other => (agree.entry? name other).trans (further.entry? name other)⟩

section

variable (agree : Agree c c') (other : ¬ Control.Positional name)
include agree other

theorem Agree.get? : c.get? name = c'.get? name := by
  rw [Criteria.get?, Criteria.get?, agree.entry? name other]

theorem Agree.number? : c.number? name = c'.number? name := by
  rw [Criteria.number?, Criteria.number?, agree.get? other]

theorem Agree.listed : c.listed name = c'.listed name := by
  rw [Criteria.listed, Criteria.listed, values, values, agree.entry? name other]

theorem Agree.flag : c.flag name = c'.flag name := by
  rw [Criteria.flag, Criteria.flag, agree.get? other]

end

theorem not_positional {name : String} (offset : name ≠ Control.offset)
    (cursor : name ≠ Control.searchAfter) : ¬ Control.Positional name := by
  rintro (same | same)
  · exact offset same
  · exact cursor same

section

variable (agree : Agree c c')
include agree

theorem Agree.size : c.size = c'.size := by
  rw [Criteria.size, Criteria.size, agree.number? (not_positional (by decide) (by decide))]

theorem Agree.page? : c.page? = c'.page? := agree.number? (not_positional (by decide) (by decide))

theorem Agree.sort? : c.sort? = c'.sort? := agree.get? (not_positional (by decide) (by decide))

theorem Agree.searchedFields : c.searchedFields = c'.searchedFields :=
  agree.listed (not_positional (by decide) (by decide))

theorem Agree.included : c.included = c'.included :=
  agree.listed (not_positional (by decide) (by decide))

theorem Agree.excluded : c.excluded = c'.excluded :=
  agree.listed (not_positional (by decide) (by decide))

theorem Agree.facets : c.facets = c'.facets := by
  rw [Criteria.facets, Criteria.facets, agree.get? (not_positional (by decide) (by decide))]

end

end Criteria

/-! ### Clauses -/

namespace Parameter

def hasFreeToggle (p : Parameter) : Bool :=
  match p.shape with
  | some (.membership _ _ toggle) => toggle != Control.offset && toggle != Control.searchAfter
  | _ => true

def toggle? (p : Parameter) : Option String :=
  match p.shape with
  | some (.membership _ _ toggle) => some toggle
  | _ => none

/-- The clause of a parameter depends on its value, the fields searched and its switch alone. -/
theorem clause?_congr {p : Parameter} {value : String} {c c' : Criteria}
    (fields : c.searchedFields = c'.searchedFields)
    (flag : ∀ toggle, p.toggle? = some toggle → c.flag toggle = c'.flag toggle) :
    p.clause? value c = p.clause? value c' := by
  unfold Parameter.clause?
  cases shaped : p.shape with
  | none => rfl
  | some shape =>
    cases shape with
    | freeText weighted => simp only [shapeClause?, fields]
    | pair => rfl
    | typed typeField typeValue => rfl
    | membership exactField ancestorField toggle =>
      simp only [shapeClause?, flag toggle (by rw [toggle?, shaped])]

theorem not_positional_toggle {p : Parameter} (free : p.hasFreeToggle = true) {toggle : String}
    (switch : p.toggle? = some toggle) : ¬ Control.Positional toggle := by
  unfold toggle? at switch
  split at switch
  · rename_i shaped
    obtain rfl := Option.some.inj switch
    simp only [hasFreeToggle, shaped, Bool.and_eq_true, bne_iff_ne] at free
    exact Criteria.not_positional free.1 free.2
  · cases switch

theorem clause?_of_agree {p : Parameter} {value : String} {c c' : Criteria} (free : p.hasFreeToggle = true)
    (agree : c.Agree c') : p.clause? value c = p.clause? value c' :=
  clause?_congr agree.searchedFields fun _ switch =>
    agree.flag (not_positional_toggle free switch)

end Parameter

theorem DocumentType.hasFreeToggle_of_mem {dt : DocumentType} {p : Parameter}
    (h : p ∈ dt.definition.allParameters) : p.hasFreeToggle = true := by
  have all : ∀ p ∈ dt.definition.allParameters, p.hasFreeToggle = true := by
    cases dt with
    | publication => decide
    | ticket => decide
    | importCandidate => decide
  exact all p h

theorem DocumentType.promotionKey_apart (dt : DocumentType) :
    ∀ name ∈ dt.definition.promotionKey, ¬ Control.Positional name := by
  have apart : ∀ name ∈ dt.definition.promotionKey,
      name ≠ Control.offset ∧ name ≠ Control.searchAfter := by
    cases dt with
    | publication => decide
    | ticket => decide
    | importCandidate => decide
  intro name key
  exact Criteria.not_positional (apart name key).1 (apart name key).2

/-! ### Queries -/

namespace Catalogue

variable {dt : DocumentType} {apiHost : String} {catalogue : Catalogue} {c c' : Criteria}

theorem directives_of_agree (agree : c.Agree c') : catalogue.directives c = catalogue.directives c' := by
  rw [directives, directives, agree.sort?]

theorem leftOut_of_agree (agree : c.Agree c') : catalogue.leftOut c = catalogue.leftOut c' := by
  rw [leftOut, leftOut, agree.included, agree.excluded]

theorem promotionSubject?_of_agree (h : catalogue.IsFor dt apiHost) (agree : c.Agree c') :
    catalogue.promotionSubject? c = catalogue.promotionSubject? c' := by
  unfold promotionSubject?
  cases key : catalogue.definition.promotionKey with
  | none => rfl
  | some name =>
    rw [h.definition] at key
    rw [Option.bind_some, Option.bind_some, agree.listed (dt.promotionKey_apart name key)]

theorem after_of_first (catalogue : Catalogue) (first : c.searchAfter? = none) (promoted : List String) :
    (catalogue.compile c promoted).after = none := by
  simp only [compile, first, Option.bind_none, Option.map_none]

/-- The query of criteria that agree with others: only where the page starts is its own. -/
theorem compile_of_agree (h : catalogue.IsFor dt apiHost) (placed : c.IsPlaced dt)
    (agree : c.Agree c') (promoted : List String) :
    catalogue.compile c' promoted = { catalogue.compile c promoted with
      offset := c'.offset
      after := (c'.searchAfter?.bind Cursor.decode?).map (·.sortValues) } := by
  have clauses : (c'.search.filterMap fun e => (e.clause? c').map fun clause => (e, clause)) =
      c.search.filterMap fun e => (e.clause? c).map fun clause => (e, clause) := by
    rw [← agree.search]
    apply List.filterMap_congr
    intro e he
    have listed := placed.listed e (Criteria.mem_entries.mpr (Or.inl he))
    rw [Entry.clause?, Entry.clause?,
      Parameter.clause?_of_agree (DocumentType.hasFreeToggle_of_mem listed) agree]
  unfold compile
  simp only [clauses, ← promotionSubject?_of_agree h agree, ← directives_of_agree agree,
    ← leftOut_of_agree agree, ← agree.facets, ← agree.size, ← agree.included]

end Catalogue

namespace Query

theorem body_of_after {q : Query} {values : List Json} (behind : q.after = some values) (offset : Nat) :
    { q with offset := offset }.body = q.body := by
  unfold body
  simp only [behind]
  rfl

end Query

end FacetSearch
