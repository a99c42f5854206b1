import FacetSearch.Text.Letters
import FacetSearch.Text.Split
import FacetSearch.Text.Utf8

/-!
# Targets of requests

The target of a request is a path with an optional query, a star, a full address, or a host alone. What
follows a hash is dropped.
-/

namespace FacetSearch.Service

structure Target where
  path : String
  query : Option String := none
  deriving DecidableEq, Repr

namespace Target

def within (ranges : List (Nat × Nat)) (b : UInt8) : Bool :=
  ranges.any fun range => range.1 ≤ b.toNat && b.toNat ≤ range.2

def inPath : UInt8 → Bool :=
  within [(0x21, 0x22), (0x24, 0x3B), (0x3D, 0x3D), (0x40, 0x5F), (0x61, 0xFF)]

def inQuery : UInt8 → Bool :=
  within [(0x21, 0x21), (0x24, 0x3B), (0x3D, 0x3D), (0x3F, 0xFF)]

def allBytes (p : UInt8 → Bool) (cs : List Char) : Bool :=
  (Text.Utf8.bytes (String.ofList cs)).all p

/-- A path and a query; an empty path is the root. -/
def pathAndQuery? (cs : List Char) : Option Target :=
  let cs := cs.takeWhile (· != '#')
  let path := cs.takeWhile (· != '?')
  let query := (cs.dropWhile (· != '?')).drop 1
  if allBytes inPath path && allBytes inQuery query then
    some { path := if path.isEmpty then "/" else String.ofList path
           query := if cs.contains '?' then some (String.ofList query) else none }
  else none

/-- The characters of an authority, besides letters, digits and the percent sign. -/
def authorityMarks : List Char :=
  ['!', '#', '$', '&', '\'', '(', ')', '*', '+', ',', '-', '.', '/', ':', ';', '=', '?', '@', '[', ']',
    '_', '~']

structure Seen where
  colons : Nat := 0
  opened : Bool := false
  closed : Bool := false
  percent : Bool := false
  atEnd : Bool := false

def see (s : Seen) (c : Char) : Option Seen :=
  let s := { s with atEnd := false }
  if c = ':' then if 8 ≤ s.colons then none else some { s with colons := s.colons + 1 }
  else if c = '[' then if s.percent || s.opened then none else some { s with opened := true }
  else if c = ']' then
    if !s.opened || s.closed then none else some { s with closed := true, colons := 0, percent := false }
  else if c = '@' then some { s with colons := 0, percent := false, atEnd := true }
  else if c = '%' then some { s with percent := true }
  else if c.isAlphanum || authorityMarks.contains c then some s
  else none

def isAuthority (cs : List Char) : Bool :=
  match cs.foldlM see {} with
  | some s => s.opened == s.closed && s.colons ≤ 1 && !s.atEnd && !s.percent
  | none => false

def behindScheme? (cs : List Char) : Option (List Char) :=
  let inScheme (c : Char) : Bool := c.isAlphanum || c == '+' || c == '-' || c == '.'
  let scheme := cs.takeWhile inScheme
  match cs.dropWhile inScheme with
  | ':' :: '/' :: '/' :: rest => if scheme.length ≤ 64 then some rest else none
  | _ => none

def parse? (s : String) : Option Target :=
  match s.toList with
  | [] => none
  | ['*'] => some { path := "*" }
  | '/' :: rest => pathAndQuery? ('/' :: rest)
  | cs =>
    let ends (c : Char) : Bool := c == '/' || c == '?' || c == '#'
    match behindScheme? cs with
    | some rest =>
      let authority := rest.takeWhile (!ends ·)
      if authority.isEmpty || !isAuthority authority then none
      else pathAndQuery? (rest.dropWhile (!ends ·))
    | none => if cs.any ends || !isAuthority cs then none else some { path := "" }

end Target
end FacetSearch.Service
