import FacetSearch.Engine.Request
import FacetSearch.Main
import FacetSearch.Proofs.Access.Confinement
import FacetSearch.Proofs.Catalogue.Build
import FacetSearch.Proofs.Clause.Meaning
import FacetSearch.Proofs.Links.Counts
import FacetSearch.Proofs.Links.Drift
import FacetSearch.Proofs.Links.Following
import FacetSearch.Proofs.Paging.Completeness
import FacetSearch.Proofs.Query.Semantics
import FacetSearch.Service.Router
import FacetSearch.Service.Target
import FacetSearch.Proofs.Acceptance.Gathering
import FacetSearch.Proofs.Query.Clauses
import FacetSearch.Proofs.Acceptance.PageNumbers
import FacetSearch.Proofs.Acceptance.Alike
import FacetSearch.Proofs.Acceptance.Repetition
import FacetSearch.Proofs.Query.Repetition
import FacetSearch.Proofs.Acceptance.Rearrangement
import FacetSearch.Proofs.Query.Rearrangement
import FacetSearch.Proofs.Acceptance.Offences
import FacetSearch.Proofs.Service.Discipline
import FacetSearch.Proofs.Settings.Defaults
import FacetSearch.Proofs.Settings.Endpoints
import FacetSearch.Proofs.Catalogue.Resolution
import FacetSearch.Proofs.Acceptance.Dates
import FacetSearch.Proofs.Acceptance.Cursors
import FacetSearch.Proofs.Query.Order
import FacetSearch.Proofs.Query.Switches
import FacetSearch.Proofs.Criteria.Replay
import FacetSearch.Proofs.Facets.Selection
import FacetSearch.Proofs.Facets.Shape
import FacetSearch.Proofs.Paging.Assembly
import FacetSearch.Proofs.Paging.Partition
import FacetSearch.Proofs.Query.Promotions
import FacetSearch.Proofs.Export.Tables
import FacetSearch.Proofs.Clause.FreeText
import FacetSearch.Proofs.Export.Cells
