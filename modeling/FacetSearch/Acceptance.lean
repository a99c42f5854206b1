import FacetSearch.Calendar.Period
import FacetSearch.Catalogue.Basic
import FacetSearch.Cursor
import FacetSearch.FacetSelection
import FacetSearch.Refusal
import FacetSearch.Text.Percent

/-!
# Accepting a request

`Catalogue.accept` turns the names and values of a request into criteria or refuses it. The checks
come in a fixed order: required names, unknown names, the form of the values, the order of results
and the facets, and last, when all values have their final form, the bounds of a page.
-/

namespace FacetSearch

structure Limits where
  /-- The largest page. -/
  maxSize : Nat := 1000
  /-- The largest end of a page that is reached by an offset. -/
  window : Nat := 10000
  deriving DecidableEq, Repr

namespace Acceptance

open Calendar (firstDay lastDay isPeriod)
open Number.Decimal (render)

/-! ### Gathering names and values -/

/-- A value as it is kept: percent-decoded if the parameter says so and the bytes are well formed. -/
def decoded (p : Parameter) (value : String) : String :=
  if p.decoded then
    (Text.Utf8.text? (Text.Percent.decode (Text.Utf8.bytes value))).getD value
  else value

/-- The criteria so far and the names that no parameter has, each once. -/
structure Gathered where
  criteria : Criteria
  unknown : List String := []
  deriving DecidableEq, Repr

/-- Adds a name and its value; an empty value counts for nothing. -/
def Gathered.add (catalogue : Catalogue) (g : Gathered) (pair : String × String) : Gathered :=
  let p := catalogue.resolve pair.1
  if p.isUnknown then
    if g.unknown.contains pair.1 then g else { g with unknown := g.unknown ++ [pair.1] }
  else
    let value := Text.trim pair.2
    if value = "" then g else { g with criteria := g.criteria.merge p (decoded p value) }

def gather (catalogue : Catalogue) (extra : List String) (pairs : List (String × String)) : Gathered :=
  let required := Criteria.requiring (catalogue.definition.required ++ extra)
  pairs.foldl (Gathered.add catalogue) { criteria := required }

def absent (c : Criteria) : List String :=
  c.required.filter fun name => !c.contains name

/-- Adds the value of one absent name, if it has a parameter and a default. -/
def addDefault (catalogue : Catalogue) (c : Criteria) (name : String) : Criteria :=
  match catalogue.parameter? name, catalogue.defaultValue? name with
  | some p, some value => c.merge p value
  | _, _ => c

def addDefaults (catalogue : Catalogue) (c : Criteria) : Criteria :=
  (absent c).foldl (addDefault catalogue) c

/-! ### Checking values -/

def takesOneValue (p : Parameter) : Bool :=
  p.operator.isSingleValued && !Control.isList p.name

def countFault? (p : Parameter) (elements : List String) : Option String :=
  if p.operator = .between then
    if 2 < elements.length then some (p.name ++ " must be a value or a lower:upper pair")
    else if elements.all (· == "") then some p.expectation
    else none
  else if takesOneValue p && 1 < elements.length then some (p.name ++ " accepts a single value")
  else none

/-- What is wrong with the form of the values. Of a pair, either bound may be left open. -/
def formFault? (catalogue : Catalogue) (p : Parameter) (elements : List String) : Option String :=
  if elements.all fun e => (p.operator == .between && e == "") || catalogue.acceptsValue p e then none
  else some p.expectation

def meaningFault? (e : Entry) : Option String :=
  if e.parameter.kind == .date && !(e.elements.filter (· != "")).all isPeriod then
    some (e.name ++ " is not a calendar date")
  else if e.name == Control.searchAfter && (Cursor.decode? e.value).isNone then
    some (e.name ++ " is not a valid cursor")
  else none

def issue? (catalogue : Catalogue) (e : Entry) : Option Issue :=
  ((countFault? e.parameter e.elements).or
    ((formFault? catalogue e.parameter e.elements).or (meaningFault? e))).map
      fun message => ⟨e.name, e.value, message⟩

def checkValues (catalogue : Catalogue) (c : Criteria) : Except Refusal Unit :=
  match c.entries.filterMap (issue? catalogue) with
  | [] => .ok ()
  | issues => .error (.invalidValues issues)

/-! ### Order and facets -/

/-- Writes the sort expression out in full. The separate order parameter gives the direction of
tokens that have none, and is dropped. -/
def settleSort (catalogue : Catalogue) (c : Criteria) : Except Refusal Criteria :=
  let (order, c) := c.take Control.order
  let fallback := order.bind fun order => Direction.parse? (Text.trim order)
  match c.sort? with
  | none => .ok c
  | some expression =>
    match catalogue.sorts.parse expression fallback with
    | .error tokens => .error (.invalidSort tokens catalogue.sorts.names)
    | .ok directives =>
      match catalogue.parameter? Control.sort with
      | some p => .ok (c.set p (Directive.expression directives))
      | none => .ok c

def checkFacets (catalogue : Catalogue) (c : Criteria) : Except Refusal Unit :=
  match c.facets with
  | .only names =>
    match names.filter fun name => (catalogue.facet? name).isNone with
    | [] => .ok ()
    | offending =>
      let known := Text.join ", " (catalogue.facets.map (·.name))
      .error (.invalidValues (offending.map fun name =>
        ⟨Control.aggregation, name, "must be all, none or one of: " ++ known⟩))
  | _ => .ok ()

/-! ### Final form of the values -/

def settlePage (catalogue : Catalogue) (c : Criteria) : Criteria :=
  match c.page? with
  | none => c
  | some page =>
    let offset := Number.mulWord page c.size
    let c := c.remove Control.page
    match catalogue.parameter? Control.offset with
    | some p => c.set p (String.ofList (render offset))
    | none => c

/-- The days that a value with partial dates stands for. A lone value of a pair covers the whole of
its period. -/
def expandDates (operator : Operator) (value : String) : String :=
  let shift (day : String → String) (bound : String) : String := if bound = "" then "" else day bound
  match operator with
  | .between =>
    match Text.splitOnce ':' value with
    | some (lower, upper) =>
      shift firstDay (Text.trim lower) ++ ":" ++ shift lastDay (Text.trim upper)
    | none => firstDay (Text.trim value) ++ ":" ++ lastDay (Text.trim value)
  | .atLeast | .below => firstDay (Text.trim value)
  | _ => value

def settleDates (e : Entry) : Entry :=
  if e.parameter.kind = .date then
    { e with value := expandDates e.parameter.operator e.value }
  else e

def settleAddresses (rules : Rules) (e : Entry) : Entry :=
  match e.parameter.uriPrefix with
  | none => e
  | some path =>
    let addresses := e.elements.map (rules.expandUri path)
    { e with value := Text.join e.parameter.operator.delimiter.toString addresses }

def settleEntry (rules : Rules) (e : Entry) : Entry :=
  settleAddresses rules (settleDates e)

def settle (catalogue : Catalogue) (c : Criteria) : Criteria :=
  let c := settlePage catalogue c
  { c with
    search := c.search.map (settleEntry catalogue.rules)
    control := c.control.map (settleEntry catalogue.rules) }

/-! ### Bounds -/

def sizeIssue? (limits : Limits) (c : Criteria) : Option Issue :=
  if limits.maxSize < c.size then
    some ⟨Control.size, String.ofList (render c.size),
      "must be at most " ++ String.ofList (render limits.maxSize)⟩
  else none

def windowIssue? (limits : Limits) (c : Criteria) : Option Issue :=
  if c.searchAfter?.isNone ∧ limits.window < Number.addWord c.offset c.size then
    some ⟨Control.offset, String.ofList (render c.offset),
      "from + size must not exceed " ++ String.ofList (render limits.window) ++
        "; use searchAfter for deeper pages"⟩
  else none

def checkBounds (limits : Limits) (c : Criteria) : Except Refusal Unit :=
  match (sizeIssue? limits c).toList ++ (windowIssue? limits c).toList with
  | [] => .ok ()
  | issues => .error (.invalidValues issues)

end Acceptance

open Acceptance in
/-- The criteria of a request, or why it is refused. `extra` names are required beside those of the
catalogue. -/
def Catalogue.accept (catalogue : Catalogue) (extra : List String) (limits : Limits)
    (pairs : List (String × String)) : Except Refusal Criteria := do
  let gathered := gather catalogue extra pairs
  let c := addDefaults catalogue gathered.criteria
  unless (absent c).isEmpty do throw (.missingRequired (absent c))
  unless gathered.unknown.isEmpty do throw (.unknownParameters gathered.unknown catalogue.names)
  checkValues catalogue c
  let c ← settleSort catalogue c
  checkFacets catalogue c
  let c := settle catalogue c
  checkBounds limits c
  return c

end FacetSearch
