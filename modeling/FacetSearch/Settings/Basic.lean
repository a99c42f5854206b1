import FacetSearch.Acceptance
import FacetSearch.Url.Parser

/-!
# Settings

What an installation of the service can choose. `Settings.faults` lists what is wrong with a choice;
the service starts only if nothing is.
-/

namespace FacetSearch

structure Settings where
  port : Nat := 8080
  host : String := "127.0.0.1"
  logLevel : String := "info"
  /-- How long a request may take, in seconds. -/
  requestTimeout : Nat := 30
  /-- Whether pages from other origins may ask. -/
  crossOrigin : Bool := true
  /-- The origins that may ask; a star stands for all. -/
  origins : String := "*"
  /-- The headers that they may send; a star stands for all. -/
  originHeaders : String := "Accept,Authorization,Content-Type,X-Organization-Id"
  /-- The address that links start with. -/
  baseUrl : String := "http://localhost:8080"
  /-- The host that identifiers are expanded against. -/
  apiHost : String := "https://api.scholar-search.org"
  /-- What every index name begins with. -/
  indexPrefix : String := ""
  /-- The page size of requests that give none, in place of the catalogue's own. -/
  defaultPageSize : Option Nat := none
  maxPageSize : Nat := 1000
  /-- How long a look-up of promoted records may take, in milliseconds. -/
  promotionTimeout : Nat := 500
  promotionsFile : Option String := none
  /-- The nodes of the engine, separated by commas. -/
  nodes : String := "http://localhost:9200"
  username : Option String := none
  password : Option String := none
  deriving DecidableEq, Repr

namespace Settings

def forTesting : Settings where
  port := 0
  logLevel := "debug"
  requestTimeout := 5
  crossOrigin := false
  originHeaders := "*"
  baseUrl := "https://api.test"
  apiHost := "https://api.test"
  indexPrefix := "test-"
  maxPageSize := 100
  promotionTimeout := 100

def socketAddress (s : Settings) : String :=
  s.host ++ ":" ++ String.ofList (Number.Decimal.render s.port)

def indexName (s : Settings) (documentType : DocumentType) : String :=
  s.indexPrefix ++ documentType.index

def endpointUrl (s : Settings) (path : String) : Except UrlError Url :=
  Url.parse (Text.trimEnd '/' s.baseUrl ++ "/" ++ Text.trimStart '/' path)

def limits (s : Settings) : Limits := { maxSize := s.maxPageSize }

def nodeList (s : Settings) : List String :=
  ((Text.split ',' s.nodes).map Text.trim).filter (· != "")

def isUrl (s : String) : Bool := (Url.parse s).toOption.isSome

def pageSizeFault? (s : Settings) : Option String :=
  match s.defaultPageSize with
  | some size =>
    if size = 0 then some "Default page size cannot be 0"
    else if s.maxPageSize < size then some "Default page size cannot exceed max page size"
    else none
  | none => none

def faults (s : Settings) : List String :=
  let expect (ok : Bool) (fault : String) : List String := if ok then [] else [fault]
  expect (s.port != 0) "Port cannot be 0" ++
  expect (s.requestTimeout != 0) "Request timeout cannot be 0" ++
  expect (s.maxPageSize != 0) "Max page size cannot be 0" ++
  s.pageSizeFault?.toList ++
  expect (isUrl s.baseUrl) ("Base URL '" ++ s.baseUrl ++ "' is not a valid URL") ++
  expect (isUrl s.apiHost) ("API host '" ++ s.apiHost ++ "' is not a valid URL") ++
  expect (!s.nodeList.isEmpty) "At least one Elasticsearch node is required"

end Settings
end FacetSearch
