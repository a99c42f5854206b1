import FacetSearch.Engine.Failure
import FacetSearch.Json.Record
import FacetSearch.Text.Quoted
import FacetSearch.Url.Parser

/-!
# Settings of the engine

Which nodes the engine has, how long it may take, and how the service makes itself known. Of the nodes
the first is used.
-/

namespace FacetSearch.Engine

def name : String := "elasticsearch"

inductive Credentials where
  | basic (username password : String)
  | bearer (token : String)
  deriving DecidableEq, Repr

structure Settings where
  nodes : List String := ["http://localhost:9200"]
  /-- How long an answer may take, in milliseconds. -/
  requestTimeout : Nat := 30000
  credentials : Option Credentials := none
  /-- Whether any certificate will do. -/
  anyCertificate : Bool := false
  deriving DecidableEq, Repr

namespace Credentials

def ofJson? (value : Json) : Option Credentials := do
  match ← value.fields? with
  | [("Basic", fields)] =>
    match ← fields.record? ["username", "password"] with
    | [some username, some password] => some (.basic (← username.str?) (← password.str?))
    | _ => none
  | [("Bearer", fields)] =>
    match ← fields.record? ["token"] with
    | [some token] => some (.bearer (← token.str?))
    | _ => none
  | _ => none

def toJson : Credentials → Json
  | basic username password =>
    .obj [("Basic", .obj [("username", .str username), ("password", .str password)])]
  | bearer token => .obj [("Bearer", .obj [("token", .str token)])]

end Credentials

namespace Settings

def ofJson? (value : Json) : Option Settings := do
  match ← value.record?
      ["nodes", "request_timeout_ms", "auth", "disable_certificate_validation"] with
  | [some nodes, requestTimeout, credentials, anyCertificate] =>
    some { nodes := ← nodes.strs?
           requestTimeout := ← Json.natOr? 30000 requestTimeout
           credentials := ← Json.optional? Credentials.ofJson? credentials
           anyCertificate := ← (anyCertificate.getD (.bool false)).bool? }
  | _ => none

def toJson (s : Settings) : Json :=
  .obj [("nodes", .strs s.nodes), ("request_timeout_ms", .nat s.requestTimeout),
    ("auth", .ofOption (s.credentials.map Credentials.toJson)),
    ("disable_certificate_validation", .bool s.anyCertificate)]

def node (s : Settings) : String := s.nodes.head?.getD "http://localhost:9200"

def nodeUrl (s : Settings) : Except EngineFailure Url :=
  (Url.parse s.node).mapError fun e => .unavailable name ("Invalid URL: " ++ e.message)

/-- The engine as reports show it; credentials are left out. -/
def report (s : Settings) : String :=
  "ElasticsearchEngine \x7b nodes: " ++ Text.quotedList s.nodes ++ ", request_timeout_ms: " ++
    String.ofList (Number.Decimal.render s.requestTimeout) ++ ", .. \x7d"

end Settings
end FacetSearch.Engine
