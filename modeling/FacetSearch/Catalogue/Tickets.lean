import FacetSearch.Catalogue.Basic

/-!
# Tickets

What can be asked for the tickets of the curation workflow.
-/

namespace FacetSearch.Tickets

def freeText : List WeightedField := [
  ⟨"publication.mainTitle", Boost.ofRatio 3 1⟩,
  ⟨"messages.text", Boost.ofRatio 3 2⟩,
  ⟨"owner.firstName", Boost.ofRatio 1 1⟩,
  ⟨"owner.lastName", Boost.ofRatio 1 1⟩]

def parameters : List Parameter := [
  { name := "query", spelling := "query|searchall|q", kind := .custom, operator := .allOf,
    fields := ["publication.mainTitle", "messages.text", "owner.firstName", "owner.lastName"],
    shape := some (.freeText freeText) },
  { name := "type", spelling := "type|tickettype", kind := .keyword, operator := .anyOf,
    fields := ["type.keyword"], facet := some "type" },
  { name := "status", spelling := "status|ticketstatus", kind := .keyword, operator := .anyOf,
    fields := ["status.keyword"], facet := some "status" },
  { name := "statusNot", spelling := "statusnot", kind := .keyword, operator := .notAnyOf,
    fields := ["status.keyword"] },
  { name := "assignee", spelling := "assignee", kind := .keyword, operator := .anyOf,
    fields := ["assignee.username.keyword"], facet := some "assignee" },
  { name := "owner", spelling := "owner", kind := .keyword, operator := .anyOf,
    fields := ["owner.username.keyword"] },
  { name := "viewedBy", spelling := "viewedby", kind := .keyword, operator := .allOf,
    fields := ["viewedBy.username.keyword"] },
  { name := "notViewedBy", spelling := "notviewedby|viewedbynot", kind := .keyword,
    operator := .notAllOf, fields := ["viewedBy.username.keyword"] },
  { name := "finalizedBy", spelling := "finalizedby", kind := .keyword, operator := .anyOf,
    fields := ["finalizedBy.username.keyword"] },
  { name := "publicationId", spelling := "publicationid|publicationidentifier", kind := .keyword,
    operator := .anyOf, fields := ["publication.id.keyword", "publication.identifier.keyword"],
    uriPrefix := some "publication", decoded := true },
  { name := "publicationTitle", spelling := "publicationtitle", kind := .text, operator := .allOf,
    fields := ["publication.mainTitle"] },
  { name := "createdDate", spelling := "createddate|created", kind := .date, operator := .between,
    fields := ["createdDate"] },
  { name := "modifiedDate", spelling := "modifieddate|modified", kind := .date,
    operator := .between, fields := ["modifiedDate"] },
  { name := "organizationId", spelling := "organizationid|organization|unit", kind := .custom,
    operator := .anyOf, fields := ["organization.id.keyword", "organizationIds.keyword"],
    shape := some (.membership
      "organization.id.keyword"
      "organizationIds.keyword"
      "excludeSubunits"),
    uriPrefix := some "cristin/organization", decoded := true },
  { name := "excludeSubunits", spelling := "excludesubunits", kind := .flag, operator := .silent },
  { name := "hasMessages", spelling := "hasmessages", kind := .presence, operator := .presence,
    fields := ["messages.text"] },
  { name := "id", spelling := "id|identifier", kind := .keyword, operator := .anyOf,
    fields := ["identifier.keyword", "id.keyword"] }]

def sortKeys : List SortKey := [
  .relevance,
  ⟨"createdDate", "createddate|created", ["createdDate"], .descending⟩,
  ⟨"modifiedDate", "modifieddate|modified", ["modifiedDate"], .descending⟩,
  ⟨"status", "status", ["status.keyword"], .ascending⟩,
  ⟨"type", "type", ["type.keyword"], .ascending⟩]

def facets : List Facet := [
  { name := "type", parameter := "type", field := "type.keyword" },
  { name := "status", parameter := "status", field := "status.keyword" },
  { name := "assignee", parameter := "assignee", field := "assignee.username.keyword", size := 100 }]

def definition : Definition where
  documentType := .ticket
  parameters := parameters
  sortKeys := sortKeys
  facets := facets
  required := [Control.offset, Control.size, Control.sort, Control.aggregation]
  defaultSize := 15
  defaultSort := "createdDate:desc"
  identifierField := "identifier.keyword"
  sourceExcludes := ["messages.owner"]

end FacetSearch.Tickets
