import FacetSearch.DocumentType
import FacetSearch.Facet
import FacetSearch.Parameter.Control
import FacetSearch.Sort

/-!
# Catalogues

A definition lists what can be asked for one kind of record. A catalogue is a definition whose
patterns have been read and whose references have been checked; `Catalogue.build` makes it.
-/

namespace FacetSearch

structure Definition where
  documentType : DocumentType
  /-- The parameters of the query, in the order in which a name is looked for. -/
  parameters : List Parameter
  sortKeys : List SortKey
  facets : List Facet
  /-- The parameters that every request must have or gets by default. -/
  required : List String
  defaultSize : Nat
  defaultSort : String
  /-- The parameter whose single value may have promoted results. -/
  promotionKey : Option String := none
  identifierField : String
  /-- Parts of a record that are left out unless they are asked for. -/
  sourceExcludes : List String := []
  deriving Repr

inductive CatalogueError where
  | invalidPattern (name : String)
  | undefinedKey (documentType : DocumentType) (name : String)
  deriving DecidableEq, Repr

namespace CatalogueError

def message : CatalogueError → String
  | invalidPattern name => "invalid pattern for '" ++ name ++ "'"
  | undefinedKey documentType name =>
    documentType.name ++ " catalogue refers to undefined key '" ++ name ++ "'"

end CatalogueError

/-- The rules of one kind of record, as far as they depend on the installation. -/
structure Rules where
  defaultSize : Nat
  /-- The host that identifiers are expanded against. -/
  apiHost : String
  deriving DecidableEq, Repr

namespace Rules

/-- The full address of an identifier below `path`; an address is returned as it is. -/
def expandUri (rules : Rules) (path value : String) : String :=
  if Text.startsWith "http://" value || Text.startsWith "https://" value then value
  else Text.trimEnd '/' rules.apiHost ++ "/" ++ Text.trimStart '/' (Text.trimEnd '/' path) ++ "/" ++
    Text.trimStart '/' value

end Rules

structure Catalogue where
  definition : Definition
  rules : Rules
  /-- The parameters that a request can name, with the patterns of their spellings. -/
  spellings : List (Pattern × Parameter)
  valuePatterns : List (String × Pattern)
  sorts : SortTable
  deriving Repr

namespace Definition

/-- The definition's own parameters and after them the shared ones. -/
def allParameters (d : Definition) : List Parameter :=
  d.parameters ++ Control.parameters

def parameter? (d : Definition) (name : String) : Option Parameter :=
  d.allParameters.find? (·.name == name)

def references (d : Definition) : List String :=
  d.required ++ d.promotionKey.toList ++ d.facets.map (·.parameter)

end Definition

namespace Catalogue

def readPattern (name : String) (p : Option Pattern) : Except CatalogueError Pattern :=
  match p with
  | some p => .ok p
  | none => .error (.invalidPattern name)

/-- The patterns of one parameter: of its spellings, unless it is internal, and of a value. -/
def readParameter (p : Parameter) :
    Except CatalogueError (Option (Pattern × Parameter) × (String × Pattern)) := do
  let spelling ← if p.scope = .internal then pure none
    else (readPattern p.name (Pattern.wholeAnyCase? p.spelling)).map fun s => some (s, p)
  let value ← readPattern p.name (Pattern.parse? p.elementPattern)
  return (spelling, (p.name, value))

def readSortKey (k : SortKey) : Except CatalogueError (Pattern × SortKey) :=
  (readPattern k.name (Pattern.wholeAnyCase? k.spelling)).map fun p => (p, k)

/-- The catalogue of a definition, if its patterns can be read, every name it refers to is defined,
and its default order can be resolved. -/
def build (d : Definition) (apiHost : String) : Except CatalogueError Catalogue := do
  let parameters ← d.allParameters.mapM readParameter
  let sorts : SortTable := ⟨← d.sortKeys.mapM readSortKey⟩
  match d.references.find? fun name => (d.parameter? name).isNone with
  | some name => throw (.undefinedKey d.documentType name)
  | none => pure ()
  match sorts.parse d.defaultSort none with
  | .error _ => throw (.undefinedKey d.documentType d.defaultSort)
  | .ok _ => pure ()
  return {
    definition := d
    rules := { defaultSize := d.defaultSize, apiHost }
    spellings := parameters.filterMap (·.1)
    valuePatterns := parameters.map (·.2)
    sorts }

def withDefaultSize (c : Catalogue) (size : Nat) : Catalogue :=
  { c with rules := { c.rules with defaultSize := size } }

def documentType (c : Catalogue) : DocumentType := c.definition.documentType

def facets (c : Catalogue) : List Facet := c.definition.facets

/-- The parameter that a name in a request spells: the first whose pattern matches, without regard
to case and word separators. -/
def resolve (c : Catalogue) (name : String) : Parameter :=
  let plain := plainName (Text.trim name)
  match c.spellings.find? fun entry => entry.1.occursIn plain with
  | some entry => entry.2
  | none => .unknown

/-- The parameter of this name, in exactly this spelling. -/
def parameter? (c : Catalogue) (name : String) : Option Parameter :=
  c.definition.parameter? name

/-- Whether a value has the form that the parameter asks for. Of several parameters with one name the
last decides. -/
def acceptsValue (c : Catalogue) (p : Parameter) (value : String) : Bool :=
  match c.valuePatterns.reverse.find? (·.1 == p.name) with
  | some entry => entry.2.occursIn value
  | none => value != ""

/-- The names that a request may use; the page number is not offered. -/
def names (c : Catalogue) : List String :=
  (c.spellings.map (·.2.name)).filter (· != Control.page)

def facet? (c : Catalogue) (name : String) : Option Facet :=
  c.facets.find? fun f => Text.sameWord f.name name

/-- The value of a required parameter that a request leaves out. -/
def defaultValue? (c : Catalogue) (name : String) : Option String :=
  if name = Control.offset then some "0"
  else if name = Control.size then some (String.ofList (Number.Decimal.render c.rules.defaultSize))
  else if name = Control.sort then some c.definition.defaultSort
  else if name = Control.aggregation then some Control.allFacets
  else none

end Catalogue
end FacetSearch
