import FacetSearch.Engine.Settings
import FacetSearch.Json.Parser
import FacetSearch.Json.Printer
import FacetSearch.Text.Base64

/-!
# Asking the engine

A query goes to the engine as one request, and what comes back is a reply or a failure.
-/

namespace FacetSearch.Engine

structure Request where
  method : String
  path : String
  authorization : Option String
  contentType : String
  body : Json
  deriving Repr, BEq

inductive Transmission where
  | replied (status : Nat) (body : String)
  | timedOut
  /-- There was no connection, or it broke off. -/
  | failed (message : String)
  deriving DecidableEq, Repr

def Credentials.header : Credentials → String
  | basic username password =>
    "Basic " ++ Text.Base64.encodePadded (Text.Utf8.bytes (username ++ ":" ++ password))
  | bearer token => "Bearer " ++ token

/-- The bytes that stand in an index name as they are. -/
def inIndexName (b : UInt8) : Bool :=
  Text.Percent.isAlphanumeric b || [0x5F, 0x2D, 0x2E, 0x2C, 0x2A].contains b

def searchPath (node : Url) (index : String) : String :=
  let encoded := Text.Percent.encode inIndexName (Text.Utf8.bytes index)
  Text.trimEnd '/' node.path.text ++ "/" ++ String.ofList encoded ++ "/_search"

def searchRequest (s : Settings) (node : Url) (index : String) (body : Json) : Request where
  method := "POST"
  path := searchPath node index
  authorization := s.credentials.map Credentials.header
  contentType := "application/json"
  body := body

/-- What the engine has found, or why that is not known. -/
def readReply (s : Settings) : Transmission → Except EngineFailure Json
  | .timedOut => .error (.timeout name s.requestTimeout)
  | .failed message => .error (.unavailable name message)
  | .replied status body =>
    if 200 ≤ status ∧ status < 300 then
      match Json.parse? body with
      | some found => .ok found
      | none => .error (.badResponse name status "Failed to parse search response")
    else .error (.badResponse name status body)

end FacetSearch.Engine
