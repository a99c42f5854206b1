import FacetSearch.Number.Boost
import FacetSearch.Text.Blank
import FacetSearch.Text.Split

/-!
# Parameters

A parameter is one thing a request may ask for: how its name is spelled, what its values look like,
how several values combine, which fields of a record they are compared with, and the shape of the
clause that compares them.
-/

namespace FacetSearch

inductive Kind where
  | text
  | fuzzyText
  | keyword
  | fuzzyKeyword
  | number
  | date
  | boolean
  /-- A switch that only steers other clauses. -/
  | flag
  | presence
  | sort
  /-- Values of a clause with a shape of its own. -/
  | custom
  | invalid
  deriving DecidableEq, Repr

namespace Kind

def pattern : Kind → String
  | number => "^-?\\d+(\\.\\d+)?$"
  | date => "^\\d\x7b4\x7d(-(0[1-9]|1[0-2])(-(0[1-9]|[12]\\d|3[01]))?)?$"
  | boolean | flag | presence => "(?i)^(true|false)$"
  | _ => "(?s)^.+$"

/-- What is expected of a value, as the end of a sentence. -/
def expectation : Kind → String
  | number => "must be a number"
  | date => "must be a date formatted as yyyy, yyyy-mm or yyyy-mm-dd"
  | boolean | flag | presence => "must be true or false"
  | sort => "must be a comma separated list of name[:asc|desc]"
  | custom => "has an invalid format"
  | invalid => "is not a recognised parameter"
  | _ => "must not be empty"

end Kind

inductive Operator where
  | allOf
  | anyOf
  | notAllOf
  | notAnyOf
  /-- From the lower to the upper bound of a pair, both included. -/
  | between
  /-- From a bound on. -/
  | atLeast
  /-- Up to a bound, which is excluded. -/
  | below
  | presence
  /-- No clause. -/
  | silent
  deriving DecidableEq, Repr

namespace Operator

def delimiter : Operator → Char
  | between => ':'
  | _ => ','

def isSingleValued : Operator → Bool
  | atLeast | below | silent => true
  | _ => false

def label : Operator → String
  | allOf => "all-of"
  | anyOf => "any-of"
  | notAllOf => "not-all-of"
  | notAnyOf => "not-any-of"
  | between => "between"
  | atLeast => "greater-or-equal"
  | below => "less-than"
  | presence => "exists"
  | silent => "none"

end Operator

/-- What a parameter is for: the query, its presentation, or the service itself. An internal
parameter is never found by the name in a request. -/
inductive Scope where
  | search
  | control
  | internal
  deriving DecidableEq, Repr

structure WeightedField where
  path : String
  boost : Boost
  deriving DecidableEq, Repr

/-- Clauses that are more than a comparison of values with fields. -/
inductive Shape where
  /-- Free text across weighted fields, with a preference for phrases in the strongest ones. -/
  | freeText (fields : List WeightedField)
  /-- Two values `first:second`, both within one nested object. -/
  | pair
  /-- A value together with a fixed kind of value, within one nested object. -/
  | typed (typeField typeValue : String)
  /-- Membership in an organisation itself or in it and all below it, as a switch says. -/
  | membership (exactField ancestorField toggle : String)
  deriving DecidableEq, Repr

structure Parameter where
  name : String
  /-- The pattern of the spellings of the name. -/
  spelling : String
  kind : Kind
  operator : Operator
  /-- The fields compared; more than one are alternatives. -/
  fields : List String := []
  nested : Option String := none
  /-- A pattern in place of the kind's own. -/
  valuePattern : Option String := none
  /-- Whether values are percent-decoded once more. -/
  decoded : Bool := false
  boost : Boost := Boost.one
  /-- The field compared with the second half of a pair. -/
  companion : Option String := none
  scope : Scope := .search
  shape : Option Shape := none
  /-- The path below which identifiers become full addresses. -/
  uriPrefix : Option String := none
  facet : Option String := none
  deriving DecidableEq, Repr

namespace Parameter

def control (name spelling : String) (kind : Kind) (valuePattern : String) : Parameter :=
  { name, spelling, kind, operator := .silent, valuePattern := some valuePattern, scope := .control }

/-- A parameter whose clause has a shape of its own. -/
def custom (name spelling : String) (shape : Shape) (fields : List String) : Parameter :=
  { name, spelling, kind := .custom, operator := .allOf, fields, shape := some shape }

def unknown : Parameter :=
  { name := "invalid", spelling := "", kind := .invalid, operator := .silent, scope := .internal }

def isUnknown (p : Parameter) : Bool :=
  p.kind == .invalid

/-- The values in a text in which repeated values were merged. -/
def elements (p : Parameter) (value : String) : List String :=
  (Text.split p.operator.delimiter value).map Text.trim

def elementPattern (p : Parameter) : String :=
  p.valuePattern.getD p.kind.pattern

def expectation (p : Parameter) : String :=
  p.name ++ " " ++ p.kind.expectation

end Parameter
end FacetSearch
