import FacetSearch.Parameter.Basic
import FacetSearch.Pattern.Notation
import FacetSearch.Text.Letters

/-!
# Orders of results

A sort expression is a list of tokens `name` or `name:direction`. Each token names a sort key in any
of its spellings and becomes a directive; a direction that a token leaves out is taken from a
fallback for the whole expression, else from the key.
-/

namespace FacetSearch

inductive Direction where
  | ascending
  | descending
  deriving DecidableEq, Repr

namespace Direction

def word : Direction → String
  | ascending => "asc"
  | descending => "desc"

def parse? (s : String) : Option Direction :=
  if Text.sameWord s "asc" then some ascending
  else if Text.sameWord s "desc" then some descending
  else none

theorem parse?_word (d : Direction) : parse? d.word = some d := by
  cases d <;> decide

end Direction

structure SortKey where
  name : String
  spelling : String
  fields : List String
  /-- The direction of a token that has none. -/
  direction : Direction
  deriving DecidableEq, Repr

namespace SortKey

/-- The field that stands for the score of a hit. -/
def scoreField : String := "_score"

/-- Order by score, which every kind of record has. -/
def relevance : SortKey :=
  ⟨"relevance", "relevance|score", [scoreField], .descending⟩

end SortKey

structure Directive where
  key : SortKey
  direction : Direction
  deriving DecidableEq, Repr

namespace Directive

def text (d : Directive) : String :=
  d.key.name ++ ":" ++ d.direction.word

def expression (ds : List Directive) : String :=
  Text.join "," (ds.map text)

end Directive

/-- A name without the marks that only separate its words. -/
def plainName (name : String) : String :=
  String.ofList (name.toList.filter fun c => c != '_' && c != '-')

structure SortTable where
  entries : List (Pattern × SortKey)
  deriving Repr

namespace SortTable

def resolve? (table : SortTable) (name : String) : Option SortKey :=
  let plain := plainName name
  (table.entries.find? fun entry => entry.1.occursIn plain).map (·.2)

def names (table : SortTable) : List String :=
  table.entries.map (·.2.name)

def directive? (table : SortTable) (fallback : Option Direction) (token : String) :
    Option Directive :=
  match Text.split ':' token with
  | [name] => do
    let key ← table.resolve? (Text.trim name)
    some ⟨key, fallback.getD key.direction⟩
  | [name, direction] => do
    let direction ← Direction.parse? (Text.trim direction)
    let key ← table.resolve? (Text.trim name)
    some ⟨key, direction⟩
  | _ => none

def tokens (expression : String) : List String :=
  ((Text.split ',' expression).map Text.trim).filter (· != "")

/-- The directives of an expression, or all the tokens that are none. -/
def parse (table : SortTable) (expression : String) (fallback : Option Direction) :
    Except (List String) (List Directive) :=
  let read := (tokens expression).map fun token => (token, table.directive? fallback token)
  match (read.filter (·.2.isNone)).map (·.1) with
  | [] => .ok (read.filterMap (·.2))
  | offending => .error offending

end SortTable
end FacetSearch
