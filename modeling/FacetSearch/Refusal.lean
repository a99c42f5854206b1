import FacetSearch.Text.Split

/-!
# Refused requests

A request is refused for one class of offence, and the refusal lists every offence of that class.
-/

namespace FacetSearch

structure Issue where
  parameter : String
  value : String
  message : String
  deriving DecidableEq, Repr

namespace Issue

def text (i : Issue) : String :=
  i.parameter ++ "='" ++ i.value ++ "' " ++ i.message

end Issue

inductive Refusal where
  | unknownParameters (names valid : List String)
  | invalidValues (issues : List Issue)
  | missingRequired (names : List String)
  | invalidSort (tokens valid : List String)
  deriving DecidableEq, Repr

namespace Refusal

def kind : Refusal → String
  | unknownParameters .. => "UnknownParameter"
  | invalidValues .. => "InvalidValue"
  | missingRequired .. => "MissingRequired"
  | invalidSort .. => "InvalidSort"

def offences : Refusal → List String
  | unknownParameters names _ => names
  | invalidValues issues => issues.map Issue.text
  | missingRequired names => names
  | invalidSort tokens _ => tokens

def valid : Refusal → List String
  | unknownParameters _ valid => valid
  | invalidSort _ valid => valid
  | _ => []

def message : Refusal → String
  | unknownParameters names _ => "unknown parameter(s): " ++ Text.join ", " names
  | invalidValues issues => "invalid value(s): " ++ Text.join "; " (issues.map Issue.text)
  | missingRequired names => "missing required parameter(s): " ++ Text.join ", " names
  | invalidSort tokens _ => "invalid sort: " ++ Text.join ", " tokens

end Refusal
end FacetSearch
