import FacetSearch.Parameter.Control
import FacetSearch.Text.Letters

/-!
# Criteria

What one request asks for: the value of each parameter it names, the parameters of the query apart
from those of the presentation. Entries stay in the order in which they came to be present, so that
links list them as the client sent them.
-/

namespace FacetSearch

/-- A parameter with its value; repeated values are joined by the parameter's delimiter. -/
structure Entry where
  parameter : Parameter
  value : String
  deriving DecidableEq, Repr

namespace Entry

def name (e : Entry) : String := e.parameter.name

def elements (e : Entry) : List String := e.parameter.elements e.value

/-- The entries with the parameter's value replaced by `change` of it, or with a new entry last. -/
def upsert (p : Parameter) (change : Option String → String) : List Entry → List Entry
  | [] => [⟨p, change none⟩]
  | e :: rest =>
    if e.name = p.name then { e with value := change (some e.value) } :: rest
    else e :: upsert p change rest

def erase (name : String) : List Entry → List Entry
  | [] => []
  | e :: rest => if e.name = name then rest else e :: erase name rest

/-- The value of the entry of a name, and the entries without it. -/
def extract? (name : String) : List Entry → Option (String × List Entry)
  | [] => none
  | e :: rest =>
    if e.name = name then some (e.value, rest)
    else (extract? name rest).map fun (value, rest) => (value, e :: rest)

end Entry

structure Criteria where
  search : List Entry := []
  control : List Entry := []
  required : List String := []
  deriving DecidableEq, Repr

namespace Criteria

/-- Nothing asked for, with each required name listed once. -/
def requiring (names : List String) : Criteria :=
  { required := names.foldl (fun acc name => if acc.contains name then acc else acc ++ [name]) [] }

/-! ### Changing entries -/

/-- The criteria with the list that holds the parameter changed. -/
def modifyFor (c : Criteria) (p : Parameter) (f : List Entry → List Entry) : Criteria :=
  if p.scope = .control then { c with control := f c.control } else { c with search := f c.search }

def merge (c : Criteria) (p : Parameter) (value : String) : Criteria :=
  c.modifyFor p (Entry.upsert p fun old =>
    match old with
    | some old => old ++ p.operator.delimiter.toString ++ value
    | none => value)

def set (c : Criteria) (p : Parameter) (value : String) : Criteria :=
  c.modifyFor p (Entry.upsert p fun _ => value)

/-! ### Looking up -/

def entries (c : Criteria) : List Entry := c.search ++ c.control

def entry? (c : Criteria) (name : String) : Option Entry :=
  c.entries.find? (·.name == name)

def contains (c : Criteria) (name : String) : Bool :=
  (c.entry? name).isSome

def get? (c : Criteria) (name : String) : Option String :=
  (c.entry? name).map (·.value)

def values (c : Criteria) (name : String) : List String :=
  ((c.entry? name).map Entry.elements).getD []

def remove (c : Criteria) (name : String) : Criteria :=
  if c.search.any (·.name == name) then { c with search := Entry.erase name c.search }
  else { c with control := Entry.erase name c.control }

/-- The value of a name, if it has one, and the criteria without it. -/
def take (c : Criteria) (name : String) : Option String × Criteria :=
  match Entry.extract? name c.search, Entry.extract? name c.control with
  | some (value, search), _ => (some value, { c with search })
  | none, some (value, control) => (some value, { c with control })
  | none, none => (none, c)

def flag (c : Criteria) (name : String) : Bool :=
  (c.get? name).any fun value => Text.sameWord (Text.trim value) "true"

/-- Whether the parameter is among the entries of its scope. -/
def has (c : Criteria) (p : Parameter) : Bool :=
  (if p.scope = .control then c.control else c.search).any (·.name == p.name)

/-! ### What the control parameters say -/

def number? (c : Criteria) (name : String) : Option Nat :=
  (c.get? name).bind fun value => Number.Decimal.read? Number.maxWord (Text.trim value).toList

def listed (c : Criteria) (name : String) : List String :=
  (c.values name).filter (· != "")

/-- How many results come before the first one shown. -/
def offset (c : Criteria) : Nat := (c.number? Control.offset).getD 0

def size (c : Criteria) : Nat := (c.number? Control.size).getD 0

def page? (c : Criteria) : Option Nat := c.number? Control.page

def sort? (c : Criteria) : Option String := c.get? Control.sort

def searchAfter? (c : Criteria) : Option String := c.get? Control.searchAfter

def searchedFields (c : Criteria) : List String := c.listed Control.fields

def included (c : Criteria) : List String := c.listed Control.included

def excluded (c : Criteria) : List String := c.listed Control.excluded

/-- Names and values as a link lists them: the presentation first, then the query. -/
def toPairs (c : Criteria) : List (String × String) :=
  (c.control ++ c.search).map fun e => (e.name, e.value)

end Criteria
end FacetSearch
