import FacetSearch.Text.Percent
import FacetSearch.Text.Split
import FacetSearch.Text.Utf8

/-!
# Query strings

Name and value pairs in the form `name=value&name=value`: a plus sign is a blank, and every byte
besides letters, digits and `*-._` is percent-encoded.
-/

namespace FacetSearch.Text.Form

def isPlain (b : UInt8) : Bool :=
  Percent.isAlphanumeric b || b == 0x2A || b == 0x2D || b == 0x2E || b == 0x5F

def encodePart (s : String) : List Char :=
  (Utf8.bytes s).flatMap fun b =>
    if b == 0x20 then ['+']
    else if isPlain b then [Char.ofNat b.toNat]
    else Percent.escape b

def encodePair (pair : String × String) : List Char :=
  encodePart pair.1 ++ '=' :: encodePart pair.2

def encode (pairs : List (String × String)) : String :=
  String.ofList (['&'].intercalate (pairs.map encodePair))

/-- A part that was written; malformed bytes become replacement characters. -/
def decodePart (cs : List Char) : String :=
  let bytes := Utf8.bytes (String.ofList cs)
  Utf8.textLossy (Percent.decode (bytes.map fun b => if b == 0x2B then 0x20 else b))

/-- A pair; without an equals sign the value is empty. -/
def decodePair (cs : List Char) : String × String :=
  match cutAt '=' cs with
  | some (name, value) => (decodePart name, decodePart value)
  | none => (decodePart cs, "")

def decode (s : String) : List (String × String) :=
  ((splitWhere (· == '&') s.toList).filter (!·.isEmpty)).map decodePair

end FacetSearch.Text.Form
