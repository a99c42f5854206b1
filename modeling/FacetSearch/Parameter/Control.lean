import FacetSearch.Parameter.Basic

/-!
# Control parameters

The parameters that every kind of record shares: paging, order, facets and the choice of fields. They
are looked for after a catalogue's own parameters.
-/

namespace FacetSearch.Control

def offset : String := "from"
def size : String := "size"
def page : String := "page"
def sort : String := "sort"
def order : String := "sortOrder"
def searchAfter : String := "searchAfter"
def aggregation : String := "aggregation"
def fields : String := "fields"
def included : String := "nodesIncluded"
def excluded : String := "nodesExcluded"

def allFacets : String := "all"

def noFacets : String := "none"

def allFields : String := "all"

def parameters : List Parameter := [
  .control offset "from|offset" .number "^\\d+$",
  .control size "size|results|perpage|pagesize" .number "^\\d+$",
  .control page "page" .number "^\\d+$",
  .control sort "sort|orderby|sortby" .sort "(?s)^.+$",
  .control order "sortorder|order" .sort "(?i)^(asc|desc)$",
  .control searchAfter "searchafter" .keyword "^[A-Za-z0-9_-]+$",
  .control aggregation "aggregations?" .keyword "^[A-Za-z]+$",
  .control fields "fields|nodessearched" .keyword "^[\\w.]+$",
  .control included "nodesincluded" .keyword "^[\\w.]+$",
  .control excluded "nodesexcluded" .keyword "^[\\w.]+$"]

def isList (name : String) : Bool :=
  [sort, aggregation, fields, included, excluded].contains name

end FacetSearch.Control
