import FacetSearch.Catalogue.Basic

/-!
# Publications

What can be asked for published records.
-/

namespace FacetSearch.Publications

def freeText : List WeightedField := [
  ⟨"entityDescription.mainTitle", Boost.ofRatio 3 1⟩,
  ⟨"entityDescription.contributors.identity.name", Boost.ofRatio 2 1⟩,
  ⟨"entityDescription.abstract", Boost.ofRatio 3 2⟩,
  ⟨"entityDescription.description", Boost.ofRatio 1 1⟩,
  ⟨"entityDescription.tags", Boost.ofRatio 1 1⟩,
  ⟨"entityDescription.reference.publicationContext.name", Boost.ofRatio 1 2⟩]

def affiliationField : String := "entityDescription.contributors.affiliations.id.keyword"

def affiliationAncestorsField : String :=
  "entityDescription.contributors.affiliations.ancestors.keyword"

def parameters : List Parameter := [
  { name := "query", spelling := "query|searchall|q", kind := .custom, operator := .allOf,
    fields := freeText.map (·.path),
    shape := some (.freeText freeText) },
  { name := "title", spelling := "title|maintitle", kind := .text, operator := .allOf,
    fields := ["entityDescription.mainTitle"], boost := Boost.ofRatio 2 1 },
  { name := "titleNot", spelling := "titlenot", kind := .text, operator := .notAnyOf,
    fields := ["entityDescription.mainTitle"] },
  { name := "titleShould", spelling := "titleshould", kind := .text, operator := .anyOf,
    fields := ["entityDescription.mainTitle"] },
  { name := "abstract", spelling := "abstract", kind := .text, operator := .allOf,
    fields := ["entityDescription.abstract"] },
  { name := "contributor", spelling := "contributors?|contributorid", kind := .keyword,
    operator := .allOf, fields := ["entityDescription.contributors.identity.id.keyword"],
    nested := some "entityDescription.contributors", uriPrefix := some "cristin/person",
    decoded := true },
  { name := "contributorNot", spelling := "contributors?not|contributoridnot", kind := .keyword,
    operator := .notAnyOf, fields := ["entityDescription.contributors.identity.id.keyword"],
    nested := some "entityDescription.contributors", uriPrefix := some "cristin/person",
    decoded := true },
  { name := "contributorShould", spelling := "contributors?should", kind := .keyword,
    operator := .anyOf, fields := ["entityDescription.contributors.identity.id.keyword"],
    nested := some "entityDescription.contributors", uriPrefix := some "cristin/person",
    decoded := true },
  { name := "contributorName", spelling := "contributors?name|author|creator", kind := .fuzzyText,
    operator := .allOf, fields := ["entityDescription.contributors.identity.name"],
    nested := some "entityDescription.contributors" },
  { name := "id", spelling := "id|identifier", kind := .keyword, operator := .anyOf,
    fields := ["identifier.keyword", "id.keyword"] },
  { name := "idNot", spelling := "idnot|identifiernot", kind := .keyword, operator := .notAnyOf,
    fields := ["identifier.keyword", "id.keyword"] },
  { name := "type", spelling := "type|instancetype|category", kind := .keyword,
    operator := .anyOf,
    fields := ["entityDescription.reference.publicationInstance.type.keyword"],
    facet := some "type" },
  { name := "typeNot", spelling := "typenot|instancetypenot|categorynot", kind := .keyword,
    operator := .notAnyOf,
    fields := ["entityDescription.reference.publicationInstance.type.keyword"] },
  { name := "publicationYear", spelling := "publicationyear|year", kind := .number,
    operator := .between, fields := ["entityDescription.publicationDate.year"] },
  { name := "publicationYearBefore", spelling := "publicationyearbefore|yearbefore",
    kind := .number, operator := .below, fields := ["entityDescription.publicationDate.year"] },
  { name := "publicationYearSince", spelling := "publicationyearsince|yearsince", kind := .number,
    operator := .atLeast, fields := ["entityDescription.publicationDate.year"] },
  { name := "publishedBetween", spelling := "publishedbetween", kind := .date,
    operator := .between, fields := ["publishedDate"] },
  { name := "publishedBefore", spelling := "publishedbefore", kind := .date, operator := .below,
    fields := ["publishedDate"] },
  { name := "publishedSince", spelling := "publishedsince", kind := .date, operator := .atLeast,
    fields := ["publishedDate"] },
  { name := "createdSince", spelling := "createdsince", kind := .date, operator := .atLeast,
    fields := ["createdDate"] },
  { name := "modifiedSince", spelling := "modifiedsince", kind := .date, operator := .atLeast,
    fields := ["modifiedDate"] },
  { name := "unit", spelling := "units?|unitid|organization|organizationid", kind := .custom,
    operator := .anyOf,
    fields := [affiliationField, affiliationAncestorsField],
    shape := some (.membership affiliationField affiliationAncestorsField "excludeSubunits"),
    nested := some "entityDescription.contributors", uriPrefix := some "cristin/organization",
    decoded := true },
  { name := "excludeSubunits", spelling := "excludesubunits", kind := .flag, operator := .silent },
  { name := "topLevelOrganization", spelling := "toplevelorganizations?", kind := .keyword,
    operator := .anyOf, fields := ["topLevelOrganizations.id.keyword"],
    nested := some "topLevelOrganizations", uriPrefix := some "cristin/organization",
    decoded := true, facet := some "topLevelOrganization" },
  { name := "fundingSource", spelling := "fundingsource", kind := .keyword, operator := .anyOf,
    fields := ["fundings.source.identifier.keyword"], nested := some "fundings",
    facet := some "fundingSource" },
  { name := "funding", spelling := "fundings?", kind := .custom, operator := .allOf,
    fields := ["fundings.source.identifier.keyword"], shape := some .pair,
    nested := some "fundings", companion := some "fundings.identifier.keyword",
    valuePattern := some "^[^:]+:[^:]+$" },
  { name := "cristinIdentifier", spelling := "cristinidentifier|cristinid", kind := .custom,
    operator := .anyOf, fields := ["additionalIdentifiers.value.keyword"],
    shape := some (.typed "additionalIdentifiers.sourceName.keyword" "Cristin"),
    nested := some "additionalIdentifiers" },
  { name := "scopusIdentifier", spelling := "scopusidentifier|scopusid", kind := .custom,
    operator := .anyOf, fields := ["additionalIdentifiers.value.keyword"],
    shape := some (.typed "additionalIdentifiers.sourceName.keyword" "Scopus"),
    nested := some "additionalIdentifiers" },
  { name := "doi", spelling := "doi", kind := .fuzzyKeyword, operator := .anyOf,
    fields := ["entityDescription.reference.doi.keyword", "doi.keyword"], decoded := true },
  { name := "handle", spelling := "handle", kind := .keyword, operator := .anyOf,
    fields := ["handle.keyword"], decoded := true },
  { name := "hasFiles", spelling := "hasfiles?|files", kind := .presence, operator := .presence,
    fields := ["associatedArtifacts.fileIdentifier"] },
  { name := "license", spelling := "licen[cs]e", kind := .keyword, operator := .anyOf,
    fields := ["associatedArtifacts.license.keyword"], decoded := true, facet := some "license" },
  { name := "journal", spelling := "journal|publicationcontext|series", kind := .fuzzyText,
    operator := .anyOf,
    fields := ["entityDescription.reference.publicationContext.name",
      "entityDescription.reference.publicationContext.title"] },
  { name := "tags", spelling := "tags?|keywords?", kind := .text, operator := .anyOf,
    fields := ["entityDescription.tags"] },
  { name := "status", spelling := "status", kind := .keyword, operator := .anyOf,
    fields := ["status.keyword"] },
  { name := "scientificValue", spelling := "scientificvalue|level", kind := .keyword,
    operator := .anyOf,
    fields := ["entityDescription.reference.publicationContext.scientificValue.keyword"],
    facet := some "scientificValue" }]

def sortKeys : List SortKey := [
  .relevance,
  ⟨"publishedDate", "publisheddate|published", ["publishedDate"], .descending⟩,
  ⟨"createdDate", "createddate|created", ["createdDate"], .descending⟩,
  ⟨"modifiedDate", "modifieddate|modified", ["modifiedDate"], .descending⟩,
  ⟨"publicationYear", "publicationyear|year", ["entityDescription.publicationDate.year"],
    .descending⟩,
  ⟨"title", "title|maintitle", ["entityDescription.mainTitle.keyword"], .ascending⟩,
  ⟨"type", "type|instancetype|category",
    ["entityDescription.reference.publicationInstance.type.keyword"], .ascending⟩]

def facets : List Facet := [
  { name := "type", parameter := "type",
    field := "entityDescription.reference.publicationInstance.type.keyword" },
  { name := "topLevelOrganization", parameter := "topLevelOrganization",
    field := "topLevelOrganizations.id.keyword", nested := some "topLevelOrganizations",
    countsRecords := true, labels := some "labels" },
  { name := "fundingSource", parameter := "fundingSource",
    field := "fundings.source.identifier.keyword", nested := some "fundings",
    countsRecords := true, labels := some "source.labels" },
  { name := "license", parameter := "license", field := "associatedArtifacts.license.keyword" },
  { name := "scientificValue", parameter := "scientificValue",
    field := "entityDescription.reference.publicationContext.scientificValue.keyword", size := 10 }]

def definition : Definition where
  documentType := .publication
  parameters := parameters
  sortKeys := sortKeys
  facets := facets
  required := [Control.offset, Control.size, Control.sort, Control.aggregation]
  defaultSize := 15
  defaultSort := "relevance,publishedDate:desc"
  promotionKey := some "contributor"
  identifierField := "identifier.keyword"
  sourceExcludes := ["joinField", "entityDescription.contributors.affiliations.ancestors"]

end FacetSearch.Publications
