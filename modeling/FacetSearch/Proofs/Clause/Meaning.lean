import FacetSearch.Clause.OfParameter
import FacetSearch.Proofs.Clause.Semantics

/-!
# What the clause of a parameter asks for

The clause of a parameter is compared with what the parameter means: a condition on single values
over fields and nested objects, which the operator combines. Negation stands outside the nested
objects, and each value may be met by an object of its own.
-/

namespace FacetSearch

open Clause

variable {Object : Type} {i : Interpretation Object} {document o : Object}

/-! ### Conditions -/

def Kind.isCompared : Kind → Bool
  | .flag | .presence | .sort | .custom | .invalid => false
  | _ => true

/-- What it means for a field of an object to have a value. -/
def Kind.compares (i : Interpretation Object) (o : Object) (value field : String) : Kind → Prop
  | .text => i.words field value true false o = true
  | .fuzzyText => i.words field value true true o = true
  | .keyword | .number | .date => i.term field value o = true
  | .boolean => i.term field (Text.lowercase value) o = true
  | .fuzzyKeyword =>
    i.term field value o = true ∨ i.words (Parameter.analysedField field) value false true o = true
  | .flag | .presence | .sort | .custom | .invalid => False

def Operator.takesSet : Operator → Bool
  | .allOf | .anyOf | .notAllOf | .notAnyOf => true
  | _ => false

theorem Operator.combined_congr {operator : Operator} {values : List α} {others : List β}
    {P : α → Prop} {Q : β → Prop} (all : (∀ v ∈ values, P v) ↔ ∀ v ∈ others, Q v)
    (some : (∃ v ∈ values, P v) ↔ ∃ v ∈ others, Q v) :
    operator.Combined values P ↔ operator.Combined others Q := by
  cases operator with
  | anyOf => exact some
  | notAllOf => exact not_congr all
  | notAnyOf => exact not_congr some
  | _ => exact all

/-- The clause exists exactly if `asked`, and then the document satisfies it exactly if `P`. -/
def Clause.Expresses (i : Interpretation Object) (document : Object) (clause : Option Clause)
    (asked P : Prop) : Prop :=
  (clause.isSome = true ↔ asked) ∧ ∀ c, clause = some c → (holds i c document = true ↔ P)

namespace Parameter

variable {p : Parameter} {value : String} {criteria : Criteria}

def sought (p : Parameter) (value : String) : List String :=
  (p.elements value).filter (· != "")

/-- The objects whose fields are compared: those at the parameter's path, or the document itself. -/
def places (p : Parameter) (i : Interpretation Object) (document : Object) : List Object :=
  match p.nested with
  | some path => i.objects path document
  | none => [document]

/-- The ends of a range; a lone value is both. -/
def ends (value : String) : String × String :=
  (Text.splitOnce ':' value).getD (value, value)

/-! ### Single values -/

theorem holds_within {clause : Clause} :
    holds i (within p clause) document = true ↔ ∃ o ∈ p.places i document, holds i clause o = true := by
  unfold within places
  cases p.nested with
  | some path => exact holds_nested
  | none => simp

theorem fieldClause?_isSome {kind : Kind} {value field : String} :
    (fieldClause? kind value field).isSome = kind.isCompared := by
  cases kind <;> rfl

theorem holds_fieldClause? {kind : Kind} {value field : String} {clause : Clause}
    (h : fieldClause? kind value field = some clause) :
    holds i clause o = true ↔ kind.compares i o value field := by
  cases kind with
  | fuzzyKeyword =>
    obtain rfl := Option.some.inj h
    rw [holds_anyOf]
    simp [holds, Kind.compares]
  | flag | presence | sort | custom | invalid => cases h
  | _ =>
    obtain rfl := Option.some.inj h
    rw [holds, Kind.compares]

theorem valueClause?_isSome (fields : p.fields ≠ []) :
    (p.valueClause? value).isSome = p.kind.isCompared := by
  obtain ⟨field, rest, hf⟩ := List.exists_cons_of_ne_nil fields
  have hsome : ∀ f, (fieldClause? p.kind value f).isSome = p.kind.isCompared :=
    fun _ => fieldClause?_isSome
  cases hk : p.kind.isCompared with
  | true =>
    rw [Option.isSome_iff_ne_none, valueClause?, ne_eq, any?_eq_none_iff, hf]
    obtain ⟨clause, hc⟩ := Option.isSome_iff_exists.mp ((hsome field).trans hk)
    simp [hc]
  | false =>
    rw [Option.isSome_eq_false_iff, Option.isNone_iff_eq_none, valueClause?, any?_eq_none_iff,
      List.filterMap_eq_nil_iff]
    intro f _
    exact Option.isSome_eq_false_iff.mp ((hsome f).trans hk) |> Option.isNone_iff_eq_none.mp

theorem holds_valueClause? {clause : Clause} (h : p.valueClause? value = some clause) :
    holds i clause o = true ↔ ∃ field ∈ p.fields, p.kind.compares i o value field := by
  rw [holds_any? h]
  constructor
  · rintro ⟨c, hc, holds⟩
    obtain ⟨field, hf, built⟩ := List.mem_filterMap.mp hc
    exact ⟨field, hf, (holds_fieldClause? built).mp holds⟩
  · rintro ⟨field, hf, compares⟩
    have compared : (fieldClause? p.kind value field).isSome = true := by
      rw [fieldClause?_isSome]
      revert compares
      cases p.kind <;> simp [Kind.compares, Kind.isCompared]
    obtain ⟨c, hc⟩ := Option.isSome_iff_exists.mp compared
    exact ⟨c, List.mem_filterMap.mpr ⟨field, hf, hc⟩, (holds_fieldClause? hc).mpr compares⟩

/-! ### Values combined -/

/-- Combined clauses of single values ask for the operator's combination of what the single clauses
ask of some object. -/
theorem expresses_combine? {build : String → Option Clause} {P : String → Object → Prop}
    (built : ∀ v ∈ p.sought value, ∀ c, build v = some c → ∀ o, holds i c o = true ↔ P v o) :
    Expresses i document (combine? p.operator (p.elementClauses value build))
      (∃ v ∈ p.sought value, (build v).isSome = true)
      (p.operator.Combined ((p.sought value).filter fun v => (build v).isSome) fun v =>
        ∃ o ∈ p.places i document, P v o) := by
  have mem : ∀ c, c ∈ p.elementClauses value build ↔
      ∃ v ∈ p.sought value, ∃ inner, build v = some inner ∧ within p inner = c := by
    intro c
    simp only [elementClauses, sought, List.mem_map, List.mem_filterMap, List.mem_filter]
    grind
  constructor
  · rw [Option.isSome_iff_ne_none, ne_eq, combine?_eq_none_iff]
    constructor
    · intro nonempty
      obtain ⟨c, rest, hc⟩ := List.exists_cons_of_ne_nil nonempty
      obtain ⟨v, hv, inner, hb, -⟩ := (mem c).mp (by simp [hc])
      exact ⟨v, hv, by simp [hb]⟩
    · rintro ⟨v, hv, hb⟩
      obtain ⟨inner, hb⟩ := Option.isSome_iff_exists.mp hb
      exact List.ne_nil_of_mem ((mem (within p inner)).mpr ⟨v, hv, inner, hb, rfl⟩)
  · intro c hc
    rw [holds_combine? hc]
    have one : ∀ v ∈ p.sought value, ∀ inner, build v = some inner →
        (holds i (within p inner) document = true ↔ ∃ o ∈ p.places i document, P v o) := by
      intro v hv inner hb
      simp only [holds_within, built v hv inner hb]
    refine Operator.combined_congr ?_ ?_
    · constructor
      · intro all v hv
        obtain ⟨hv, hb⟩ := List.mem_filter.mp hv
        obtain ⟨inner, hb⟩ := Option.isSome_iff_exists.mp hb
        exact (one v hv inner hb).mp (all _ ((mem _).mpr ⟨v, hv, inner, hb, rfl⟩))
      · intro all c hc
        obtain ⟨v, hv, inner, hb, rfl⟩ := (mem c).mp hc
        exact (one v hv inner hb).mpr (all v (List.mem_filter.mpr ⟨hv, by simp [hb]⟩))
    · constructor
      · rintro ⟨c, hc, holds⟩
        obtain ⟨v, hv, inner, hb, rfl⟩ := (mem c).mp hc
        exact ⟨v, List.mem_filter.mpr ⟨hv, by simp [hb]⟩, (one v hv inner hb).mp holds⟩
      · rintro ⟨v, hv, found⟩
        obtain ⟨hv, hb⟩ := List.mem_filter.mp hv
        obtain ⟨inner, hb⟩ := Option.isSome_iff_exists.mp hb
        exact ⟨_, (mem _).mpr ⟨v, hv, inner, hb, rfl⟩, (one v hv inner hb).mpr found⟩

theorem expresses_combine?_of_total {build : String → Option Clause} {P : String → Object → Prop}
    (total : ∀ v ∈ p.sought value, ∃ c, build v = some c ∧ ∀ o, holds i c o = true ↔ P v o) :
    Expresses i document (combine? p.operator (p.elementClauses value build))
      (p.sought value ≠ [])
      (p.operator.Combined (p.sought value) fun v => ∃ o ∈ p.places i document, P v o) := by
  have isSome : ∀ v ∈ p.sought value, (build v).isSome = true := by
    intro v hv
    obtain ⟨c, hc, -⟩ := total v hv
    simp [hc]
  have meaning : ∀ v ∈ p.sought value, ∀ c, build v = some c → ∀ o, holds i c o = true ↔ P v o := by
    intro v hv c hc
    obtain ⟨c', hc', meaning⟩ := total v hv
    obtain rfl := Option.some.inj (hc'.symm.trans hc)
    exact meaning
  have h : Expresses i document (combine? p.operator (p.elementClauses value build)) _ _ :=
    expresses_combine? meaning
  rw [List.filter_eq_self.mpr isSome] at h
  refine ⟨h.1.trans ?_, h.2⟩
  constructor
  · rintro ⟨v, hv, -⟩
    exact List.ne_nil_of_mem hv
  · intro nonempty
    obtain ⟨v, rest, hv⟩ := List.exists_cons_of_ne_nil nonempty
    have : v ∈ p.sought value := by simp [hv]
    exact ⟨v, this, isSome v this⟩

/-! ### Ranges and presence -/

theorem bound?_eq (value : String) :
    bound? value = if Text.trim value = "" then none else some (Text.trim value) := rfl

theorem expresses_anyField (fields : p.fields ≠ []) {leaf : String → Clause}
    {P : String → Object → Prop} (meaning : ∀ f o, holds i (leaf f) o = true ↔ P f o) :
    Expresses i document ((any? (p.fields.map leaf)).map (within p)) True
      (∃ o ∈ p.places i document, ∃ f ∈ p.fields, P f o) := by
  constructor
  · simp [Option.isSome_iff_ne_none, any?_eq_none_iff, fields]
  · intro c hc
    obtain ⟨inner, hi, rfl⟩ := Option.map_eq_some_iff.mp hc
    rw [holds_within]
    refine exists_congr fun o => and_congr_right fun _ => ?_
    rw [holds_any? hi]
    constructor
    · rintro ⟨c, hc, holds⟩
      obtain ⟨f, hf, rfl⟩ := List.mem_map.mp hc
      exact ⟨f, hf, (meaning f o).mp holds⟩
    · rintro ⟨f, hf, found⟩
      exact ⟨leaf f, List.mem_map_of_mem hf, (meaning f o).mpr found⟩

theorem expresses_rangeClause? (fields : p.fields ≠ []) (bounds : Bounds) :
    Expresses i document (p.rangeClause? bounds) True
      (∃ o ∈ p.places i document, ∃ f ∈ p.fields, i.range f bounds o = true) :=
  expresses_anyField fields fun f o => by rw [holds]

theorem expresses_betweenClause? (fields : p.fields ≠ []) :
    Expresses i document (p.betweenClause? value)
      (¬(Text.trim (ends value).1 = "" ∧ Text.trim (ends value).2 = ""))
      (∃ o ∈ p.places i document, ∃ f ∈ p.fields,
        i.range f { atLeast := bound? (ends value).1, atMost := bound? (ends value).2 } o = true) := by
  rcases hends : ends value with ⟨lower, upper⟩
  have range : Expresses i document
      (p.rangeClause? { atLeast := bound? lower, atMost := bound? upper }) True _ :=
    expresses_rangeClause? fields _
  have open_iff : bound? lower = none ∧ bound? upper = none ↔
      Text.trim lower = "" ∧ Text.trim upper = "" := by
    simp [bound?_eq]
  unfold betweenClause?
  rw [← open_iff, show (Text.splitOnce ':' value).getD (value, value) = (lower, upper) from hends]
  dsimp only
  split
  · rename_i hl hu
    exact ⟨by simp [hl, hu], by simp⟩
  · rename_i given
    exact ⟨range.1.trans ⟨fun _ hn => given hn.1 hn.2, fun _ => trivial⟩, range.2⟩

theorem expresses_presenceClause? (fields : p.fields ≠ []) :
    Expresses i document (p.presenceClause? value) True
      (if Text.sameWord (Text.trim value) "false" = true then
          ¬∃ o ∈ p.places i document, ∃ f ∈ p.fields, i.present f o = true
        else ∃ o ∈ p.places i document, ∃ f ∈ p.fields, i.present f o = true) := by
  have present : Expresses i document ((any? (p.fields.map present)).map (within p)) True
      (∃ o ∈ p.places i document, ∃ f ∈ p.fields, i.present f o = true) :=
    expresses_anyField fields fun f o => by rw [holds]
  constructor
  · simpa [presenceClause?] using present.1
  · intro c hc
    obtain ⟨inner, hi, rfl⟩ := Option.map_eq_some_iff.mp hc
    have meaning := present.2 (within p inner) (by rw [hi]; rfl)
    split
    · rename_i no
      simp only [holds_noneOf, List.mem_singleton, exists_eq_left, meaning]
    · rename_i yes
      exact meaning

/-! ### Shapes -/

theorem expresses_pair (fields : p.fields ≠ []) (shape : p.shape = some .pair) :
    Expresses i document (p.clause? value criteria)
      (∃ v ∈ p.sought value, (Text.splitOnce ':' v).isSome = true)
      (p.operator.Combined ((p.sought value).filter fun v => (Text.splitOnce ':' v).isSome) fun v =>
        ∃ o ∈ p.places i document, ∀ first second, Text.splitOnce ':' v = some (first, second) →
          i.term (p.fields.head fields) (Text.trim first) o = true ∧
            ∀ field, p.companion = some field → Text.trim second ≠ "" →
              i.term field (Text.trim second) o = true) := by
  have head : p.fields.head? = some (p.fields.head fields) := List.head?_eq_some_head fields
  have built : ∀ v, p.pairClause? v = (Text.splitOnce ':' v).map fun parts =>
      allOf (term (p.fields.head fields) (Text.trim parts.1) ::
        ((bound? parts.2).bind fun value => p.companion.map fun field => term field value).toList) := by
    intro v
    rw [pairClause?, head]
    cases Text.splitOnce ':' v <;> rfl
  have isSome : ∀ v, (p.pairClause? v).isSome = (Text.splitOnce ':' v).isSome := by
    intro v
    rw [built, Option.isSome_map]
  have meaning : ∀ v ∈ p.sought value, ∀ c, p.pairClause? v = some c → ∀ o, holds i c o = true ↔
      ∀ first second, Text.splitOnce ':' v = some (first, second) →
        i.term (p.fields.head fields) (Text.trim first) o = true ∧
          ∀ field, p.companion = some field → Text.trim second ≠ "" →
            i.term field (Text.trim second) o = true := by
    intro v _ c hc o
    obtain ⟨⟨first, second⟩, hs, rfl⟩ := Option.map_eq_some_iff.mp ((built v).symm.trans hc)
    rw [holds_allOf, hs]
    cases hcomp : p.companion <;> by_cases hb : Text.trim second = "" <;>
      simp [bound?_eq, hb, holds]
  have h : Expresses i document (combine? p.operator (p.elementClauses value p.pairClause?)) _ _ :=
    expresses_combine? meaning
  simp only [isSome] at h
  simpa only [clause?, shape, shapeClause?] using h

theorem expresses_typed (fields : p.fields ≠ []) {typeField typeValue : String}
    (shape : p.shape = some (.typed typeField typeValue)) :
    Expresses i document (p.clause? value criteria) (p.sought value ≠ [])
      (p.operator.Combined (p.sought value) fun v => ∃ o ∈ p.places i document,
        i.term typeField typeValue o = true ∧ i.term (p.fields.head fields) v o = true) := by
  have head : p.fields.head? = some (p.fields.head fields) := List.head?_eq_some_head fields
  simp only [clause?, shape, shapeClause?, head, Option.bind_some]
  refine expresses_combine?_of_total fun v _ => ⟨_, rfl, fun o => ?_⟩
  rw [holds_allOf]
  simp [holds]

theorem expresses_membership {exactField ancestorField toggle : String}
    (shape : p.shape = some (.membership exactField ancestorField toggle)) :
    Expresses i document (p.clause? value criteria) (p.sought value ≠ [])
      (p.operator.Combined (p.sought value) fun v => ∃ o ∈ p.places i document,
        i.term (if criteria.flag toggle then exactField else ancestorField) v o = true) := by
  simp only [clause?, shape, shapeClause?]
  exact expresses_combine?_of_total fun v _ => ⟨_, rfl, fun o => by rw [holds]⟩

/-! ### The whole clause -/

theorem holds_withBoost {clause : Clause} :
    holds i (p.withBoost clause) document = true ↔ holds i clause document = true := by
  unfold withBoost
  split
  · rfl
  · exact holds_boosted

/-- A boost changes no match, so a clause without a shape means what it means before its boost. -/
theorem expresses_of_plain {asked P : Prop} (shape : p.shape = none)
    (h : Expresses i document (p.plainClause? value) asked P) :
    Expresses i document (p.clause? value criteria) asked P := by
  simp only [clause?, shape]
  refine ⟨by rw [Option.isSome_map]; exact h.1, fun c hc => ?_⟩
  obtain ⟨plain, hp, rfl⟩ := Option.map_eq_some_iff.mp hc
  exact holds_withBoost.trans (h.2 plain hp)

theorem expresses_compared (fields : p.fields ≠ []) (shape : p.shape = none)
    (operator : p.operator.takesSet = true) (kind : p.kind.isCompared = true) :
    Expresses i document (p.clause? value criteria) (p.sought value ≠ [])
      (p.operator.Combined (p.sought value) fun v =>
        ∃ o ∈ p.places i document, ∃ f ∈ p.fields, p.kind.compares i o v f) := by
  refine expresses_of_plain shape ?_
  have plain : p.plainClause? value =
      combine? p.operator (p.elementClauses value p.valueClause?) := by
    unfold plainClause?
    revert operator
    cases p.operator <;> simp [Operator.takesSet]
  rw [plain]
  refine expresses_combine?_of_total fun v _ => ?_
  have isSome : (p.valueClause? v).isSome = true := (valueClause?_isSome fields).trans kind
  obtain ⟨c, hc⟩ := Option.isSome_iff_exists.mp isSome
  exact ⟨c, hc, fun o => holds_valueClause? hc⟩

theorem clause?_eq_none_of_kind (fields : p.fields ≠ []) (shape : p.shape = none)
    (operator : p.operator.takesSet = true) (kind : p.kind.isCompared = false) :
    p.clause? value criteria = none := by
  have single : ∀ v, p.valueClause? v = none := fun v => by
    rw [← Option.isNone_iff_eq_none, ← Option.isSome_eq_false_iff, valueClause?_isSome fields, kind]
  have elements : p.elementClauses value p.valueClause? = [] := by
    simp [elementClauses, single]
  simp only [clause?, shape, Option.map_eq_none_iff, plainClause?]
  revert operator
  cases p.operator <;> simp [Operator.takesSet, elements, combine?]

end Parameter

/-- Objects given by their fields; each field with its value is a nested object too. -/
def Interpretation.ofFields : Interpretation (List (String × String)) where
  term field value o := o.contains (field, value)
  words field text _ _ o := o.contains (field, text)
  phrase field text o := o.contains (field, text)
  acrossFields text fields o := fields.any fun field => o.contains (field, text)
  range _ _ _ := false
  present field o := o.any (·.1 == field)
  given _ _ := false
  objects _ o := o.map fun field => [field]

end FacetSearch
