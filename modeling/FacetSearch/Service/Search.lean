import FacetSearch.Catalogue.ImportCandidates
import FacetSearch.Catalogue.Publications
import FacetSearch.Catalogue.Tickets
import FacetSearch.Export
import FacetSearch.Service.Exchange
import FacetSearch.Service.Negotiation
import FacetSearch.Service.Organizations
import FacetSearch.Text.Form

/-!
# Answering a search

A search is checked before anyone is asked: first the form of the answer, then the criteria. Then the
promoted records are looked up, the engine is asked once, and its reply becomes a page.
-/

namespace FacetSearch

/-- What can be asked for one kind of record. -/
def DocumentType.definition : DocumentType → Definition
  | publication => Publications.definition
  | ticket => Tickets.definition
  | importCandidate => ImportCandidates.definition

namespace Service

def version : String := "0.3.0"

end Service

structure Service where
  settings : Settings
  publications : Catalogue
  tickets : Catalogue
  importCandidates : Catalogue
  engine : String

namespace Service

def catalogue (service : Service) : DocumentType → Catalogue
  | .publication => service.publications
  | .ticket => service.tickets
  | .importCandidate => service.importCandidates

def buildCatalogue (s : Settings) (documentType : DocumentType) : Except CatalogueError Catalogue :=
  (Catalogue.build documentType.definition s.apiHost).map fun c =>
    (s.defaultPageSize.map c.withDefaultSize).getD c

def build (settings : Settings) (engine : String) : Except CatalogueError Service := do
  return {
    settings, engine
    publications := ← buildCatalogue settings .publication
    tickets := ← buildCatalogue settings .ticket
    importCandidates := ← buildCatalogue settings .importCandidate }

def endpointPath : DocumentType → String
  | .publication => "/search/resources"
  | .ticket => "/search/tickets"
  | .importCandidate => "/search/import-candidates"

def pageResponse (form : Representation) (documentType : DocumentType) (page : ResultPage) :
    Response :=
  match form with
  | .json => .ofJson 200 form.mediaType page.toJson
  | .csv => .ofText 200 form.mediaType (Export.table documentType page)

def respond (service : Service) (documentType : DocumentType) (form : Representation)
    (criteria : Criteria) (query : Query) (answer : Except EngineFailure Json) :
    Except Problem Response := do
  let found ← answer.mapError .engine
  let base ← (service.settings.endpointUrl (endpointPath documentType)).mapError .ofUrlError
  let linker := Linker.ofCriteria base criteria
  let catalogue := service.catalogue documentType
  let page ← (catalogue.assemble linker ResultPage.standardContext service.engine query found).mapError
    .engine
  return pageResponse form documentType page

def confinedQuery (service : Service) (documentType : DocumentType) (organizations : List String)
    (criteria : Criteria) (promoted : List String) : Query :=
  let catalogue := service.catalogue documentType
  let query := catalogue.compile criteria promoted
  match accessFilter? catalogue organizations with
  | some filter => query.authorize filter
  | none => query

def consult (service : Service) (documentType : DocumentType) (form : Representation)
    (organizations : List String) (criteria : Criteria) (promoted : List String) :
    Exchange (Except Problem Response) :=
  let query := service.confinedQuery documentType organizations criteria promoted
  .askEngine (service.settings.indexName documentType) query.body fun answer =>
    .done (service.respond documentType form criteria query answer)

def examine (service : Service) (documentType : DocumentType) (request : Request) :
    Except Problem (Representation × Criteria) := do
  let form ← Representation.negotiate request.headers
  let pairs := Text.Form.decode (request.query.getD "")
  let criteria ← ((service.catalogue documentType).accept [] service.settings.limits pairs).mapError
    .refused
  return (form, criteria)

def searchFor (service : Service) (documentType : DocumentType) (organizations : List String)
    (request : Request) : Exchange (Except Problem Response) :=
  match service.examine documentType request with
  | .error problem => .done (.error problem)
  | .ok (form, criteria) =>
    let consult := service.consult documentType form organizations criteria
    match (service.catalogue documentType).promotionSubject? criteria with
    | some subject => .askPromotions subject fun answer => consult (Promotion.identifiers answer)
    | none => consult []

def search (service : Service) (documentType : DocumentType) (request : Request) :
    Exchange Response :=
  match organizations? request.headers with
  | none => .done (.ofText 400 "text/plain; charset=utf-8" unreadableOrganizations)
  | some organizations =>
    (service.searchFor documentType organizations request).map fun
      | .ok response => response
      | .error problem => problem.response

end Service
end FacetSearch
