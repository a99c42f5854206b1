import FacetSearch.Clause.FreeText
import FacetSearch.Criteria
import FacetSearch.Text.Lowercase

/-!
# The clause of a parameter

`Parameter.clause?` is the clause that a parameter with a value stands for. Single values become
clauses over the parameter's fields, which its operator combines; a parameter with a shape of its own
builds its clauses by that shape.
-/

namespace FacetSearch

open Clause

namespace Parameter

/-! ### Single values -/

def analysedField (field : String) : String :=
  Text.dropEnding ".keyword" field

def fieldClause? (kind : Kind) (value field : String) : Option Clause :=
  match kind with
  | .text => some (words field value true false)
  | .fuzzyText => some (words field value true true)
  | .keyword | .number | .date => some (term field value)
  | .boolean => some (term field (Text.lowercase value))
  | .fuzzyKeyword => some (anyOf [term field value, words (analysedField field) value false true])
  | .flag | .presence | .sort | .custom | .invalid => none

def valueClause? (p : Parameter) (value : String) : Option Clause :=
  any? (p.fields.filterMap (fieldClause? p.kind value))

/-- The clauses of the non-empty values, each within the parameter's nested objects. -/
def elementClauses (p : Parameter) (value : String) (build : String → Option Clause) :
    List Clause :=
  (((p.elements value).filter (· != "")).filterMap build).map (within p)

/-! ### Ranges and presence -/

def rangeClause? (p : Parameter) (bounds : Bounds) : Option Clause :=
  (any? (p.fields.map fun field => range field bounds)).map (within p)

/-- A bound that is left out if it is empty. -/
def bound? (value : String) : Option String :=
  if Text.trim value = "" then none else some (Text.trim value)

/-- From one bound of a pair to the other; a lone value is both. -/
def betweenClause? (p : Parameter) (value : String) : Option Clause :=
  let (lower, upper) := (Text.splitOnce ':' value).getD (value, value)
  match bound? lower, bound? upper with
  | none, none => none
  | atLeast, atMost => p.rangeClause? { atLeast, atMost }

/-- Some field is present or, for the value `false`, none is. -/
def presenceClause? (p : Parameter) (value : String) : Option Clause :=
  (any? (p.fields.map present)).map fun clause =>
    if Text.sameWord (Text.trim value) "false" then noneOf [within p clause] else within p clause

/-! ### Shapes -/

/-- A pair whose second half may be left empty. -/
def pairClause? (p : Parameter) (element : String) : Option Clause := do
  let (first, second) ← Text.splitOnce ':' element
  let field ← p.fields.head?
  let second := (bound? second).bind fun value => p.companion.map fun field => term field value
  some (allOf (term field (Text.trim first) :: second.toList))

def shapeClause? (p : Parameter) (value : String) (criteria : Criteria) : Shape → Option Clause
  | .freeText fields => freeText? fields value criteria.searchedFields
  | .pair => combine? p.operator (p.elementClauses value p.pairClause?)
  | .typed typeField typeValue =>
    p.fields.head?.bind fun field =>
      combine? p.operator (p.elementClauses value fun element =>
        some (allOf [term typeField typeValue, term field element]))
  | .membership exactField ancestorField toggle =>
    let field := if criteria.flag toggle then exactField else ancestorField
    combine? p.operator (p.elementClauses value fun element => some (term field element))

/-! ### The whole clause -/

def withBoost (p : Parameter) (clause : Clause) : Clause :=
  if p.boost.isNeutral then clause else boosted clause p.boost

/-- The clause of a parameter without a shape, before its boost. -/
def plainClause? (p : Parameter) (value : String) : Option Clause :=
  match p.operator with
  | .allOf | .anyOf | .notAllOf | .notAnyOf =>
    combine? p.operator (p.elementClauses value p.valueClause?)
  | .between => p.betweenClause? value
  | .atLeast => (bound? value).bind fun value => p.rangeClause? { atLeast := some value }
  | .below => (bound? value).bind fun value => p.rangeClause? { below := some value }
  | .presence => p.presenceClause? value
  | .silent => none

/-- The clause of a parameter with a value, if they select anything. -/
def clause? (p : Parameter) (value : String) (criteria : Criteria) : Option Clause :=
  match p.shape with
  | some shape => p.shapeClause? value criteria shape
  | none => (p.plainClause? value).map p.withBoost

end Parameter

def Entry.clause? (e : Entry) (criteria : Criteria) : Option Clause :=
  e.parameter.clause? e.value criteria

end FacetSearch
