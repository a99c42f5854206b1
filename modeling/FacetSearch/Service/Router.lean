import FacetSearch.Service.Search

/-!
# Routes

Which path leads where, what is said to methods that a path does not know, and what pages from other
origins are told about their rights.
-/

namespace FacetSearch.Service

inductive Route where
  | search (documentType : DocumentType)
  | health
  deriving DecidableEq, Repr

def healthPath : String := "/health"

def Route.ofPath? (path : String) : Option Route :=
  if path = healthPath then some .health
  else (DocumentType.all.find? fun d => endpointPath d == path).map .search

/-- The state of the service; the engine is not asked. -/
def health (service : Service) : Exchange Response :=
  .askTime fun time => .done (.ofJson 200 "application/json" (.obj [("status", .str "healthy"),
    ("backend", .str service.engine), ("version", .str version), ("timestamp", .str time)]))

def handle (service : Service) (request : Request) : Route → Exchange Response
  | .search documentType => service.search documentType request
  | .health => service.health

def allowed : Header := ⟨"allow", "GET,HEAD"⟩

/-- The answer without regard to origins. A request for the head alone is answered in full and sent
without its body. -/
def route (service : Service) (request : Request) : Exchange Response :=
  match Route.ofPath? request.path with
  | none => .done { status := 404 }
  | some route =>
    if request.method = "GET" then service.handle request route
    else if request.method = "HEAD" then
      (service.handle request route).map fun r => { r with body := .empty }
    else .done { status := 405, headers := [allowed] }

/-! ### Other origins -/

def listed (valid : String → Bool) (list : String) : List String :=
  ((Text.split ',' list).map Text.trim).filter valid

def isHeaderName (s : String) : Bool :=
  s != "" && s.toList.all fun c => c.isAlphanum ||
    ['!', '#', '$', '%', '&', '\'', '*', '+', '-', '.', '^', '_', '\x60', '|', '~'].contains c

def isHeaderValue (s : String) : Bool := s.toList.all Header.isPrintableByte

def originHeaders (s : Settings) (request : Request) : List Header :=
  let name := "access-control-allow-origin"
  if s.origins = "*" then [⟨name, "*"⟩]
  else match (Header.values "origin" request.headers).head? with
    | some origin =>
      if (listed isHeaderValue s.origins).contains origin then [⟨name, origin⟩] else []
    | none => []

def varying : Header :=
  ⟨"vary", "origin, access-control-request-method, access-control-request-headers"⟩

def acceptedHeaders (s : Settings) : List Header :=
  let name := "access-control-allow-headers"
  if s.originHeaders = "*" then [⟨name, "*"⟩]
  else match listed isHeaderName s.originHeaders with
    | [] => []
    | names => [⟨name, Text.join "," (names.map Text.lower)⟩]

/-- The answer to a page that asks for its rights before it asks anything else. -/
def preflight (s : Settings) (request : Request) : Response :=
  { status := 200
    headers := originHeaders s request ++
      [varying, ⟨"access-control-allow-methods", "GET,OPTIONS"⟩] ++ acceptedHeaders s ++
      (if (Route.ofPath? request.path).isSome then [allowed] else []) }

def answer (service : Service) (request : Request) : Exchange Response :=
  let s := service.settings
  if !s.crossOrigin then service.route request
  else if request.method = "OPTIONS" then .done (preflight s request)
  else (service.route request).map fun r =>
    { r with headers := r.headers ++ originHeaders s request ++ [varying] }

end FacetSearch.Service
