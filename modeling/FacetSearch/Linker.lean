import FacetSearch.Criteria
import FacetSearch.Cursor
import FacetSearch.Url.Basic
import FacetSearch.Window

/-!
# Links between pages

A linker holds the address of a service and the pairs of the current request. Every link is that
address with some of the pairs changed: another offset, a cursor, or a refinement.
-/

namespace FacetSearch

structure Linker where
  base : Url
  pairs : List (String × String)
  deriving DecidableEq, Repr

structure PageLinks where
  self : Url
  next : Option Url
  previous : Option Url
  /-- The next page, reached by a cursor. -/
  continuation : Option Url
  deriving DecidableEq, Repr

namespace Linker

def ofCriteria (base : Url) (c : Criteria) : Linker := ⟨base, c.toPairs⟩

def without (names : List String) (pairs : List (String × String)) : List (String × String) :=
  pairs.filter fun pair => !names.contains pair.1

/-- The pairs with the first of this name changed, or with a new one last. -/
def replaced (name value : String) : List (String × String) → List (String × String)
  | [] => [(name, value)]
  | pair :: rest =>
    if pair.1 = name then (name, value) :: rest else pair :: replaced name value rest

/-- The pairs with the first of this name changed, if there is one. -/
def changed (name value : String) : List (String × String) → List (String × String)
  | [] => []
  | pair :: rest =>
    if pair.1 = name then (name, value) :: rest else pair :: changed name value rest

def atOffset (l : Linker) (offset : Nat) : Url :=
  l.base.withPairs (replaced Control.offset (String.ofList (Number.Decimal.render offset)) l.pairs)

def continued (l : Linker) (cursor : Cursor) : Url :=
  l.base.withPairs (without [Control.offset, Control.searchAfter] l.pairs ++
    [(Control.searchAfter, cursor.encode)])

def refined (l : Linker) (name value : String) : Url :=
  l.base.withPairs (changed Control.offset "0"
    (without [Control.searchAfter] (replaced name value l.pairs)))

/-- Whether the current page was itself reached by a cursor. -/
def isContinued (l : Linker) : Bool :=
  l.pairs.any (·.1 == Control.searchAfter)

/-- The link behind the last hit of a full page, if the hit has sort values. -/
def continuation (l : Linker) (w : Window) (hits : Nat) (lastSort : Option (List Json)) :
    Option Url :=
  match lastSort with
  | some (value :: values) =>
    if hits = w.size ∧ 0 < w.size then some (l.continued ⟨value :: values⟩) else none
  | _ => none

/-- The links of the page that shows `hits` results. A page reached by a cursor has no place among
the offsets and only goes on behind its last hit. -/
def links (l : Linker) (w : Window) (hits : Nat) (lastSort : Option (List Json)) : PageLinks :=
  if l.isContinued then
    { self := l.base.withPairs (without [Control.offset] l.pairs)
      next := none
      previous := none
      continuation := l.continuation w hits lastSort }
  else
    { self := l.atOffset w.offset
      next := w.next?.map l.atOffset
      previous := w.previous?.map l.atOffset
      continuation := if w.next?.isSome then l.continuation w hits lastSort else none }

end Linker
end FacetSearch
