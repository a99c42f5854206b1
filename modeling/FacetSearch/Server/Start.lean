import FacetSearch.Engine.Settings
import FacetSearch.Json.Parser
import FacetSearch.Server.Log
import FacetSearch.Service.Search
import FacetSearch.Settings.CommandLine

/-!
# Starting the service

The service reads its settings, makes ready its engine, catalogues and promoted records, and listens.
Whatever fails on the way ends it with a message. What is done is written to the log.
-/

namespace FacetSearch.Server

/-- What a start needs of the machine. Files and the network say why they fail. -/
structure Machine where
  arguments : List String
  environment : String → Option String
  file : String → Except String String
  /-- Serves until something fails. -/
  listen : String → Except String Unit

inductive Ending where
  /-- The command line was not taken, or help was asked for. -/
  | usage (error : CommandLineError)
  | stopped (code : Nat) (errors log : List String)
  deriving DecidableEq, Repr

def Ending.code : Ending → Nat
  | usage .displayHelp => 0
  | usage _ => 2
  | stopped code _ _ => code

def engineSettings (s : Settings) : Engine.Settings :=
  { nodes := s.nodeList
    credentials := match s.username, s.password with
      | some username, some password => some (.basic username password)
      | _, _ => none }

def loadPromotions (m : Machine) (path : String) : Except String PromotionTable := do
  let content ← (m.file path).mapError fun e =>
    "Cannot read promotions file " ++ path ++ ": " ++ e
  match (Json.parse? content).bind PromotionTable.ofJson? with
  | some table => .ok table
  | none => .error ("Invalid promotions file " ++ path)

/-- A start so far: the lines written, and the error that ended it. -/
abbrev Started (α : Type) := ExceptT String (StateM (List LogLine)) α

def log (level : Level) (target message : String) (fields : List (String × String)) : Started Unit :=
  modify (· ++ [⟨level, target, message, fields⟩])

def number (n : Nat) : String := String.ofList (Number.Decimal.render n)

def logCatalogue (service : Service) (documentType : DocumentType) : Started Unit :=
  let c := service.catalogue documentType
  log .debug "scholar_search::taxonomy::catalogue" "Compiled catalogue"
    [("document_type", documentType.name), ("keys", number c.spellings.length),
      ("facets", number c.facets.length)]

def logPromotions (m : Machine) (s : Settings) : Started Unit :=
  match s.promotionsFile with
  | none => pure ()
  | some path => do
    let table ← ExceptT.mk (pure (loadPromotions m path))
    log .info "scholar" "Loaded promoted results"
      [("file", path), ("subjects", number table.size)]

def serve (m : Machine) (s : Settings) : Started Unit := do
  log .info "scholar" "Starting Scholar Search API" [("port", number s.port), ("host", s.host),
    ("base_url", s.baseUrl), ("index_prefix", s.indexPrefix)]
  log .info "scholar" "Initializing Elasticsearch engine" [("nodes", Text.quotedList s.nodeList)]
  let _ ← ExceptT.mk (pure ((engineSettings s).nodeUrl.mapError EngineFailure.message))
  let service ← ExceptT.mk (pure ((Service.build s Engine.name).mapError CatalogueError.message))
  DocumentType.all.forM (logCatalogue service)
  logPromotions m s
  log .info "scholar_rest" "Creating search API" [("engine", Text.quoted Engine.name)]
  log .info "scholar" "Server listening" [("address", s.socketAddress)]
  ExceptT.mk (pure (m.listen s.socketAddress))

/-- The filter of the log: that of the environment if it is understood, else that of the settings. -/
def chooseFilter (m : Machine) (s : Settings) : LogFilter × List String :=
  match (m.environment "RUST_LOG").bind LogFilter.parse? with
  | some filter => (filter, [])
  | none => LogFilter.ofLevel s.logLevel

def start (m : Machine) : Ending :=
  match CommandLine.read m.arguments m.environment with
  | .error e => .usage e
  | .ok s =>
    let (filter, complaints) := chooseFilter m s
    match s.faults with
    | [] =>
      let (result, lines) := (serve m s).run.run []
      let log := (lines.filter filter.passes).map LogLine.text
      match result with
      | .ok () => .stopped 0 complaints log
      | .error e => .stopped 1 (complaints ++ ["Error: " ++ e]) log
    | faults => .stopped 1 (complaints ++ faults.map ("Configuration error: " ++ ·)) []

end FacetSearch.Server
