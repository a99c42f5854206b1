import FacetSearch.AccessFilter
import FacetSearch.Catalogue.Basic
import FacetSearch.Service.Message

/-!
# Organisations and access

The gateway in front of the service names the organisations that a client may curate. Publications are
open to all once they are published; tickets and import candidates are shown only to the
organisations that they belong to, and to nobody else.
-/

namespace FacetSearch.Service

def organizationHeader : String := "x-organization-id"

/-- The organisations that the headers name; nothing if one of them is no text. -/
def organizations? (headers : List Header) : Option (List String) := do
  let values ← (Header.values organizationHeader headers).mapM Header.text?
  some (values.flatMap fun value => ((Text.split ',' value).map Text.trim).filter (· != ""))

def unreadableOrganizations : String := "Invalid X-Organization-Id header"

def publishedStatus : String := "PUBLISHED"

/-- The full addresses of the organisations, if there are any. -/
def organizationAddresses? (rules : Rules) (organizations : List String) : Option (List String) :=
  if organizations.isEmpty then none
  else some (organizations.map (rules.expandUri "cristin/organization"))

/-- What a client may see of a catalogue; nothing is decided for a client without organisations where
records belong to some. -/
def accessFilter? (catalogue : Catalogue) (organizations : List String) : Option AccessFilter :=
  match catalogue.documentType with
  | .publication => some (AccessFilter.require {} (.term "status.keyword" publishedStatus))
  | .ticket =>
    (organizationAddresses? catalogue.rules organizations).map
      (AccessFilter.requireAny {} "organizationIds.keyword")
  | .importCandidate =>
    (organizationAddresses? catalogue.rules organizations).map fun addresses =>
      AccessFilter.require {}
        (.nested "organizations" (.terms "organizations.id.keyword" addresses))

end FacetSearch.Service
