import FacetSearch.Catalogue.Basic
import FacetSearch.Engine.Failure
import FacetSearch.Refusal
import FacetSearch.Service.Message
import FacetSearch.Url.Basic

/-!
# Problems

Why a request was not answered, and the document that tells the client. What went wrong inside the
service or in the engine is not told.
-/

namespace FacetSearch.Service

inductive Problem where
  | refused (refusal : Refusal)
  /-- None of the media types that the client takes can be made. -/
  | notAcceptable (accept : String)
  | engine (failure : EngineFailure)
  | internal (message : String)
  deriving DecidableEq, Repr

namespace Problem

def ofCatalogueError (e : CatalogueError) : Problem := .internal e.message

def ofUrlError (e : UrlError) : Problem := .internal ("Invalid link base: " ++ e.message)

def ofExportError (message : String) : Problem :=
  .internal ("CSV serialization failed: " ++ message)

def message : Problem → String
  | refused r => "Bad request: " ++ r.message
  | notAcceptable accept => "Not acceptable: " ++ accept
  | engine f => "Bad gateway: " ++ f.message
  | internal message => "Internal error: " ++ message

def status : Problem → Nat
  | refused _ => 400
  | notAcceptable _ => 406
  | engine _ => 502
  | internal _ => 500

def title : Problem → String
  | refused _ => "Bad Request"
  | notAcceptable _ => "Not Acceptable"
  | engine _ => "Bad Gateway"
  | internal _ => "Internal Server Error"

def detail : Problem → String
  | refused r => r.message
  | notAcceptable accept =>
    "Cannot produce any of '" ++ accept ++ "'; supported: application/json, text/csv"
  | engine _ => "The search engine could not answer the request"
  | internal _ => "An internal error occurred"

/-- What a refusal adds to the document, so that the client can correct every mistake at once. -/
def refusalFields : Problem → List (String × Json)
  | refused r => [("kind", .str r.kind), ("invalidParameters", .strs r.offences),
    ("validParameters", .strs r.valid)]
  | _ => []

def toJson (p : Problem) : Json :=
  .obj ([("type", .str "about:blank"), ("title", .str p.title), ("status", .nat p.status),
    ("detail", .str p.detail)] ++ p.refusalFields)

def response (p : Problem) : Response :=
  .ofJson p.status "application/problem+json" p.toJson

end Problem
end FacetSearch.Service
