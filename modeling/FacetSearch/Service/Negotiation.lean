import FacetSearch.Service.Problem
import FacetSearch.Text.Blank

/-!
# The form of an answer

Results are served as JSON or as a table. Of the media types that a client takes, the first that can
be made is made; a client that says nothing gets JSON.
-/

namespace FacetSearch.Service

inductive Representation where
  | json
  | csv
  deriving DecidableEq, Repr

namespace Representation

def mediaType : Representation → String
  | json => "application/json"
  | csv => "text/csv; charset=utf-8"

/-- The form that a media range asks for, its parameters put aside. -/
def ofRange? (range : String) : Option Representation :=
  let named := String.ofList (range.toList.takeWhile (· != ';'))
  let mediaType := Text.lower (Text.trim named)
  if ["application/json", "application/ld+json", "application/*", "*/*"].contains mediaType then
    some json
  else if ["text/csv", "text/*"].contains mediaType then some csv
  else none

/-- The form that a request asks for by its first such header. -/
def negotiate (headers : List Header) : Except Problem Representation :=
  match ((Header.values "accept" headers).head?.bind Header.text?).map Text.trim with
  | none | some "" => .ok json
  | some accept =>
    match (Text.split ',' accept).findSome? ofRange? with
    | some form => .ok form
    | none => .error (.notAcceptable accept)

end Representation
end FacetSearch.Service
