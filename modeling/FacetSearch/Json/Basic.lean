import FacetSearch.Number.Binary

/-!
# JSON values

Integers of 64 bits are exact; every other number is a binary number of 64 bits. An object that was
read has one field for each name, in the order of the names.
-/

namespace FacetSearch

inductive Json where
  | null
  | bool (value : Bool)
  | int (value : Int)
  | float (value : Number.Binary)
  | str (value : String)
  | arr (items : List Json)
  | obj (fields : List (String × Json))
  deriving Repr, BEq, Inhabited

namespace Json

/-- The fields with `name` set to `value`, at its place in the order of names. -/
def insertField (name : String) (value : Json) : List (String × Json) → List (String × Json)
  | [] => [(name, value)]
  | field :: rest =>
    if name < field.1 then (name, value) :: field :: rest
    else if name = field.1 then (name, value) :: rest
    else field :: insertField name value rest

/-- The object with these fields; of two with one name the later counts. -/
def object (fields : List (String × Json)) : Json :=
  .obj (fields.foldl (fun acc field => insertField field.1 field.2 acc) [])

def nat (n : Nat) : Json := .int n

def strs (values : List String) : Json := .arr (values.map .str)

def ofOption : Option Json → Json
  | some value => value
  | none => .null

def optStr (s : Option String) : Json := ofOption (s.map .str)

def optNat (n : Option Nat) : Json := ofOption (n.map nat)

/-- A number that may be too large for the format, which then has no JSON form. -/
def number (x : Option Number.Binary) : Json :=
  ofOption (x.map .float)

/-! ### Looking into values -/

def get? (name : String) : Json → Option Json
  | .obj fields => (fields.find? (·.1 == name)).map (·.2)
  | _ => none

def items? : Json → Option (List Json)
  | .arr items => some items
  | _ => none

def fields? : Json → Option (List (String × Json))
  | .obj fields => some fields
  | _ => none

def isNull : Json → Bool
  | .null => true
  | _ => false

def str? : Json → Option String
  | .str s => some s
  | _ => none

def bool? : Json → Option Bool
  | .bool b => some b
  | _ => none

def nat? : Json → Option Nat
  | .int (.ofNat n) => some n
  | _ => none

def at? (path : List String) (value : Json) : Option Json :=
  path.foldlM (fun node name => node.get? name) value

def strs? (value : Json) : Option (List String) := do
  (← value.items?).mapM str?

end Json
end FacetSearch
