import FacetSearch.Catalogue.Basic

/-!
# Import candidates

What can be asked for records that were harvested elsewhere and await import.
-/

namespace FacetSearch.ImportCandidates

def freeText : List WeightedField := [
  ⟨"mainTitle", Boost.ofRatio 3 1⟩,
  ⟨"contributors.identity.name", Boost.ofRatio 2 1⟩,
  ⟨"abstract", Boost.ofRatio 1 1⟩]

def parameters : List Parameter := [
  { name := "query", spelling := "query|searchall|q", kind := .custom, operator := .allOf,
    fields := ["mainTitle", "contributors.identity.name", "abstract"],
    shape := some (.freeText freeText) },
  { name := "importStatus", spelling := "importstatus|status", kind := .keyword,
    operator := .anyOf, fields := ["importStatus.candidateStatus.keyword"],
    facet := some "importStatus" },
  { name := "type", spelling := "type|instancetype|category", kind := .keyword,
    operator := .anyOf, fields := ["publicationInstance.type.keyword"], facet := some "type" },
  { name := "publicationYear", spelling := "publicationyear|year", kind := .number,
    operator := .between, fields := ["publicationYear"] },
  { name := "publicationYearSince", spelling := "publicationyearsince|yearsince", kind := .number,
    operator := .atLeast, fields := ["publicationYear"] },
  { name := "title", spelling := "title|maintitle", kind := .text, operator := .allOf,
    fields := ["mainTitle"] },
  { name := "cristinIdentifier", spelling := "cristinidentifier|cristinid", kind := .custom,
    operator := .anyOf, fields := ["additionalIdentifiers.value.keyword"],
    shape := some (.typed "additionalIdentifiers.sourceName.keyword" "Cristin"),
    nested := some "additionalIdentifiers" },
  { name := "scopusIdentifier", spelling := "scopusidentifier|scopusid", kind := .custom,
    operator := .anyOf, fields := ["additionalIdentifiers.value.keyword"],
    shape := some (.typed "additionalIdentifiers.sourceName.keyword" "Scopus"),
    nested := some "additionalIdentifiers" },
  { name := "doi", spelling := "doi", kind := .fuzzyKeyword, operator := .anyOf,
    fields := ["doi.keyword"], decoded := true },
  { name := "collaborationType", spelling := "collaborationtype", kind := .keyword,
    operator := .anyOf, fields := ["collaborationType.keyword"], facet := some "collaborationType" },
  { name := "topLevelOrganization", spelling := "toplevelorganizations?|organization",
    kind := .keyword, operator := .anyOf, fields := ["organizations.id.keyword"],
    nested := some "organizations", uriPrefix := some "cristin/organization", decoded := true,
    facet := some "topLevelOrganization" },
  { name := "files", spelling := "files|filesstatus", kind := .keyword, operator := .anyOf,
    fields := ["filesStatus.keyword"], facet := some "files" },
  { name := "createdDate", spelling := "createddate|created", kind := .date, operator := .between,
    fields := ["createdDate"] },
  { name := "contributor", spelling := "contributors?|contributorid", kind := .keyword,
    operator := .allOf, fields := ["contributors.identity.id.keyword"],
    nested := some "contributors", uriPrefix := some "cristin/person", decoded := true },
  { name := "contributorName", spelling := "contributors?name|author", kind := .fuzzyText,
    operator := .allOf, fields := ["contributors.identity.name"], nested := some "contributors" },
  { name := "id", spelling := "id|identifier", kind := .keyword, operator := .anyOf,
    fields := ["identifier.keyword", "id.keyword"] }]

def sortKeys : List SortKey := [
  .relevance,
  ⟨"createdDate", "createddate|created", ["createdDate"], .descending⟩,
  ⟨"publicationYear", "publicationyear|year", ["publicationYear"], .descending⟩,
  ⟨"title", "title|maintitle", ["mainTitle.keyword"], .ascending⟩]

def facets : List Facet := [
  { name := "importStatus", parameter := "importStatus",
    field := "importStatus.candidateStatus.keyword" },
  { name := "type", parameter := "type", field := "publicationInstance.type.keyword" },
  { name := "collaborationType", parameter := "collaborationType",
    field := "collaborationType.keyword" },
  { name := "topLevelOrganization", parameter := "topLevelOrganization",
    field := "organizations.id.keyword", nested := some "organizations", countsRecords := true,
    labels := some "labels" },
  { name := "files", parameter := "files", field := "filesStatus.keyword" }]

def definition : Definition where
  documentType := .importCandidate
  parameters := parameters
  sortKeys := sortKeys
  facets := facets
  required := [Control.offset, Control.size, Control.sort, Control.aggregation]
  defaultSize := 15
  defaultSort := "createdDate:desc"
  identifierField := "identifier.keyword"

end FacetSearch.ImportCandidates
