import FacetSearch.Json.Printer
import FacetSearch.Text.Letters

/-!
# Requests and responses

The messages that the service exchanges with its clients. Names of headers are compared without
regard to case; values are bytes, of which only printable ones make a text.
-/

namespace FacetSearch.Service

structure Header where
  name : String
  /-- Each character stands for a byte. -/
  value : String
  deriving DecidableEq, Repr

structure Request where
  method : String
  path : String
  /-- What follows the question mark, if there is one. -/
  query : Option String := none
  headers : List Header := []
  deriving DecidableEq, Repr

inductive Body where
  | empty
  | text (text : String)
  | json (value : Json)
  deriving Repr, BEq

structure Response where
  status : Nat
  headers : List Header := []
  body : Body := .empty
  deriving Repr, BEq

namespace Header

def values (name : String) (headers : List Header) : List String :=
  (headers.filter fun h => Text.sameWord h.name name).map (·.value)

/-- Whether a byte is printable in ASCII or a tab. -/
def isPrintableByte (c : Char) : Bool :=
  c == '\t' || (0x20 ≤ c.toNat && c.toNat ≤ 0x7E)

/-- A value as a text, if all its bytes are printable. -/
def text? (value : String) : Option String :=
  if value.toList.all isPrintableByte then some value else none

end Header

namespace Response

def ofJson (status : Nat) (mediaType : String) (value : Json) : Response :=
  { status, headers := [⟨"content-type", mediaType⟩], body := .json value }

def ofText (status : Nat) (mediaType text : String) : Response :=
  { status, headers := [⟨"content-type", mediaType⟩], body := .text text }

end Response
end FacetSearch.Service
