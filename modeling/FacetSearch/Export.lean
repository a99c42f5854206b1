import FacetSearch.DocumentType
import FacetSearch.ResultPage
import FacetSearch.Text.Csv

/-!
# Exported tables

A page of results as a table: one row for each record, and for each kind of record a fixed set of
columns. A cell holds every plain value found along a path, lists on the way being gone through item
by item.
-/

namespace FacetSearch

structure Column where
  header : String
  /-- Where in a record the values stand, segments separated by dots. -/
  path : String
  deriving DecidableEq, Repr

namespace DocumentType

def columns : DocumentType → List Column
  | publication => [
    ⟨"url", "id"⟩,
    ⟨"title", "entityDescription.mainTitle"⟩,
    ⟨"publicationDate", "entityDescription.publicationDate.year"⟩,
    ⟨"publicationInstance", "entityDescription.reference.publicationInstance.type"⟩,
    ⟨"publicationContextName", "entityDescription.reference.publicationContext.name"⟩,
    ⟨"contributors", "entityDescription.contributors.identity.name"⟩]
  | ticket => [
    ⟨"url", "id"⟩,
    ⟨"type", "type"⟩,
    ⟨"status", "status"⟩,
    ⟨"createdDate", "createdDate"⟩,
    ⟨"modifiedDate", "modifiedDate"⟩,
    ⟨"publicationTitle", "publication.mainTitle"⟩,
    ⟨"owner", "owner.username"⟩,
    ⟨"assignee", "assignee.username"⟩]
  | importCandidate => [
    ⟨"url", "id"⟩,
    ⟨"title", "mainTitle"⟩,
    ⟨"importStatus", "importStatus.candidateStatus"⟩,
    ⟨"publicationYear", "publicationYear"⟩,
    ⟨"publicationInstance", "publicationInstance.type"⟩,
    ⟨"contributors", "contributors.identity.name"⟩,
    ⟨"organizations", "organizations.id"⟩]

end DocumentType

namespace Export

/-- The items of a list; any other value is the one item of itself. -/
def items : Json → List Json
  | .arr items => items
  | value => [value]

def follow (values : List Json) (segment : String) : List Json :=
  (values.flatMap items).filterMap (·.get? segment)

def plainText? : Json → Option String
  | .str s => some s
  | .bool b => some (Json.bool b).text
  | .int n => some (Json.int n).text
  | .float x => some (Json.float x).text
  | _ => none

def cell (record : Json) (path : String) : String :=
  let found := (Text.split '.' path).foldl follow [record]
  Text.join ", " ((found.flatMap items).filterMap plainText?)

def row (columns : List Column) (record : Json) : List String :=
  columns.map fun column => cell record column.path

def table (documentType : DocumentType) (page : ResultPage) : String :=
  let columns := documentType.columns
  Text.Csv.table (columns.map (·.header) :: page.hits.map (row columns))

end Export
end FacetSearch
