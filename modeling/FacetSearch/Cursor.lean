import FacetSearch.Json.Parser
import FacetSearch.Json.Printer
import FacetSearch.Parameter.Control
import FacetSearch.Refusal
import FacetSearch.Text.Base64
import FacetSearch.Text.Utf8

/-!
# Cursors

A cursor continues a list of results behind its last hit. It holds that hit's sort values and travels
as the URL-safe Base64 form of their JSON text.
-/

namespace FacetSearch

structure Cursor where
  sortValues : List Json
  deriving Repr, BEq

namespace Cursor

def encode (c : Cursor) : String :=
  Text.Base64.encode (Text.Utf8.bytes (Json.arr c.sortValues).text)

/-- The cursor that a text spells; one without sort values is none. -/
def decode? (s : String) : Option Cursor := do
  let json ← Text.Utf8.text? (← Text.Base64.decode? s)
  match ← Json.parse? json with
  | .arr (value :: values) => some ⟨value :: values⟩
  | _ => none

def refusal (s : String) : Refusal :=
  .invalidValues [⟨Control.searchAfter, s, "is not a valid cursor"⟩]

end Cursor
end FacetSearch
