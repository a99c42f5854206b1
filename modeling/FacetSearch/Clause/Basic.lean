import FacetSearch.Json.Basic
import FacetSearch.Parameter.Basic

/-!
# Clauses

A clause selects records. The leaves compare fields with values; the other constructors combine
clauses, look into nested objects, or change the score and nothing else.
-/

namespace FacetSearch

/-- The ends of a range, each of them optional. -/
structure Bounds where
  atLeast : Option String := none
  atMost : Option String := none
  below : Option String := none
  deriving DecidableEq, Repr, BEq

inductive Clause where
  | everything
  | nothing
  | term (field value : String)
  | boostedTerm (field value : String) (boost : Boost)
  | terms (field : String) (values : List String)
  /-- The words of a text: all of them if `every`, with slips of spelling if `fuzzy`. -/
  | words (field text : String) (every fuzzy : Bool)
  | phrase (field text : String) (boost : Boost)
  /-- Every word of a text, each in some field. -/
  | acrossFields (text : String) (fields : List WeightedField)
  | range (field : String) (bounds : Bounds)
  | present (field : String)
  /-- Some object at the path satisfies the clause. -/
  | nested (path : String) (clause : Clause)
  | allOf (clauses : List Clause)
  | anyOf (clauses : List Clause)
  | noneOf (clauses : List Clause)
  | boosted (clause : Clause) (boost : Boost)
  /-- All of `required`; records that satisfy `preferred` clauses score higher. -/
  | preferring (required preferred : List Clause)
  /-- A clause that was given in its written form. -/
  | given (json : Json)
  deriving Repr, BEq, Inhabited

def Bounds.toJson (b : Bounds) : Json :=
  let side (name : String) (value : Option String) : List (String × Json) :=
    (value.map fun v => (name, Json.str v)).toList
  .obj (side "gte" b.atLeast ++ side "lte" b.atMost ++ side "lt" b.below)

def WeightedField.text (f : WeightedField) : String :=
  f.path ++ "^" ++ f.boost.text

namespace Clause

def single (name : String) (value : Json) : Json := .obj [(name, value)]

mutual

def toJson : Clause → Json
  | everything => single "match_all" (.obj [])
  | nothing => single "match_none" (.obj [])
  | term field value => single "term" (single field (.str value))
  | boostedTerm field value boost =>
    single "term" (single field (.obj [("value", .str value), ("boost", boost.toJson)]))
  | terms field values => single "terms" (single field (.strs values))
  | words field text every fuzzy =>
    single "match" (single field (.obj
      ([("query", .str text)] ++ (if every then [("operator", .str "and")] else []) ++
        (if fuzzy then [("fuzziness", .str "AUTO")] else []))))
  | phrase field text boost =>
    single "match_phrase" (single field (.obj [("query", .str text), ("boost", boost.toJson)]))
  | acrossFields text fields =>
    single "multi_match" (.obj [("query", .str text), ("fields", .strs (fields.map (·.text))),
      ("type", .str "cross_fields"), ("operator", .str "and")])
  | range field bounds => single "range" (single field bounds.toJson)
  | present field => single "exists" (single "field" (.str field))
  | nested path clause => single "nested" (.obj [("path", .str path), ("query", clause.toJson)])
  | allOf clauses => single "bool" (single "must" (.arr (listToJson clauses)))
  | anyOf clauses =>
    single "bool" (.obj [("should", .arr (listToJson clauses)), ("minimum_should_match", .nat 1)])
  | noneOf clauses => single "bool" (single "must_not" (.arr (listToJson clauses)))
  | boosted clause boost =>
    single "bool" (.obj [("must", .arr [clause.toJson]), ("boost", boost.toJson)])
  | preferring required preferred =>
    single "bool" (.obj [("must", .arr (listToJson required)),
      ("should", .arr (listToJson preferred))])
  | given json => json

def listToJson : List Clause → List Json
  | [] => []
  | clause :: rest => clause.toJson :: listToJson rest

end

theorem listToJson_eq_map (clauses : List Clause) : listToJson clauses = clauses.map toJson := by
  induction clauses with
  | nil => simp [listToJson]
  | cons c rest ih => simp [listToJson, ih]

/-! ### Combining clauses -/

/-- All of the clauses; there must be one at least. -/
def all? : List Clause → Option Clause
  | [] => none
  | [clause] => some clause
  | clauses => some (allOf clauses)

/-- At least one of the clauses; there must be one. -/
def any? : List Clause → Option Clause
  | [] => none
  | [clause] => some clause
  | clauses => some (anyOf clauses)

def combine? (operator : Operator) (clauses : List Clause) : Option Clause :=
  if clauses.isEmpty then none
  else match operator with
    | .anyOf => any? clauses
    | .notAllOf => some (noneOf [allOf clauses])
    | .notAnyOf => some (noneOf clauses)
    | _ => all? clauses

/-- The clause within the nested objects that hold the fields of a parameter. -/
def within (p : Parameter) (clause : Clause) : Clause :=
  match p.nested with
  | some path => nested path clause
  | none => clause

theorem all?_eq_none_iff {clauses : List Clause} : all? clauses = none ↔ clauses = [] := by
  match clauses with
  | [] | [_] | _ :: _ :: _ => simp [all?]

theorem any?_eq_none_iff {clauses : List Clause} : any? clauses = none ↔ clauses = [] := by
  match clauses with
  | [] | [_] | _ :: _ :: _ => simp [any?]

end Clause
end FacetSearch
