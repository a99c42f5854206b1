import FacetSearch.Text.Lowercase
import FacetSearch.Text.Printable
import FacetSearch.Url.Basic
import FacetSearch.Url.Punycode

/-!
# Hosts

A host is a name or a number. Names are written in ASCII and small letters; numbers are written as
four decimal bytes, or between brackets as up to eight hexadecimal pieces.
-/

namespace FacetSearch.Url.Host

open Number.Decimal (render digits?)

def hexDigit? (c : Char) : Option Nat :=
  if c.isDigit then some (c.toNat - 0x30)
  else if 'a' ≤ c ∧ c ≤ 'f' then some (c.toNat - 0x61 + 10)
  else if 'A' ≤ c ∧ c ≤ 'F' then some (c.toNat - 0x41 + 10)
  else none

def valueIn (base : Nat) (cs : List Char) : Option Nat :=
  cs.foldlM (fun acc c => ((hexDigit? c).filter (· < base)).map (acc * base + ·)) 0

/-! ### Numbers of four bytes -/

/-- One part: decimal, octal behind a zero, hexadecimal behind `0x`. -/
def part? : List Char → Option Nat
  | [] => none
  | '0' :: 'x' :: rest | '0' :: 'X' :: rest => valueIn 16 rest
  | '0' :: c :: rest => valueIn 8 (c :: rest)
  | cs => valueIn 10 cs

/-- The parts of a name, without the empty one behind a final dot. -/
def dotted (name : List Char) : List (List Char) :=
  let parts := Text.splitWhere (· == '.') name
  if parts.getLast? = some [] then parts.dropLast else parts

/-- Whether a name ends like a number, so that it must be one. -/
def endsInNumber (name : List Char) : Bool :=
  match (dotted name).getLast? with
  | none | some [] => false
  | some last => last.all Char.isDigit || (part? last).isSome

/-- The last part counts for all the bytes that the others leave. -/
def ipv4? (name : List Char) : Option Nat := do
  let parts ← (dotted name).mapM part?
  let last ← parts.getLast?
  let others := parts.dropLast
  if 3 < others.length ∨ others.any (255 < ·) ∨ Nat.pow 256 (4 - others.length) ≤ last then none
  else some (others.zipIdx.foldl (fun acc (n, i) => acc + n * Nat.pow 256 (3 - i)) last)

def ipv4Text (n : Nat) : String :=
  Text.join "." ([3, 2, 1, 0].map fun i => String.ofList (render (n / Nat.pow 256 i % 256)))

/-! ### Numbers of eight pieces -/

def piece? (cs : List Char) : Option Nat :=
  if cs.isEmpty ∨ 4 < cs.length then none else valueIn 16 cs

def byte? (cs : List Char) : Option Nat :=
  if 1 < cs.length ∧ cs.head? = some '0' then none else (digits? cs).filter (· ≤ 255)

def bytePieces? (cs : List Char) : Option (List Nat) := do
  match ← (Text.splitWhere (· == '.') cs).mapM byte? with
  | [a, b, c, d] => some [a * 256 + b, c * 256 + d]
  | _ => none

/-- Pieces between colons; the last may be four decimal bytes if `bytesAtEnd`. -/
def pieces? (bytesAtEnd : Bool) (cs : List Char) : Option (List Nat) :=
  if cs.isEmpty then some []
  else do
    let groups := Text.splitWhere (· == ':') cs
    let first ← groups.dropLast.mapM piece?
    let last ← groups.getLast?
    let last ← if bytesAtEnd && last.contains '.' then bytePieces? last else (piece? last).map ([·])
    some (first ++ last)

/-- What stands before and after the first double colon. -/
def cutDouble : List Char → Option (List Char × List Char)
  | ':' :: ':' :: rest => some ([], rest)
  | c :: rest => (cutDouble rest).map fun (before, after) => (c :: before, after)
  | [] => none

/-- The eight pieces; a double colon stands for one zero or more. -/
def ipv6? (cs : List Char) : Option (List Nat) :=
  match cutDouble cs with
  | none => (pieces? true cs).filter (·.length = 8)
  | some (before, after) => do
    let front ← pieces? false before
    let back ← pieces? true after
    if 7 < front.length + back.length then none
    else some (front ++ List.replicate (8 - front.length - back.length) 0 ++ back)

def hexText (n : Nat) : String := String.ofList (Nat.toDigits 16 n)

def zeros (ps : List Nat) : Nat := (ps.takeWhile (· == 0)).length

/-- The pieces with their first longest run of two zeros or more left out. -/
def ipv6Text (ps : List Nat) : String :=
  let runs := (List.range ps.length).map fun i => (i, zeros (ps.drop i))
  let best := runs.foldl (fun best run => if best.2 < run.2 then run else best) (0, 0)
  let written (ps : List Nat) : String := Text.join ":" (ps.map hexText)
  if best.2 < 2 then "[" ++ written ps ++ "]"
  else "[" ++ written (ps.take best.1) ++ "::" ++ written (ps.drop (best.1 + best.2)) ++ "]"

/-! ### Names -/

/-- Characters that the spelling of a name does not show. -/
def isIgnored (c : Char) : Bool :=
  [0xAD, 0x200B, 0x2060, 0x2064, 0xFEFF].contains c.toNat || (0xFE00 ≤ c.toNat && c.toNat ≤ 0xFE0F)

/-- A character of a name in its plain form: small, of usual width, dots of any script as dots. -/
def plainForm (c : Char) : List Char :=
  if isIgnored c then []
  else if c.toNat = 0x3002 ∨ c.toNat = 0xFF61 then ['.']
  else if 0xFF01 ≤ c.toNat ∧ c.toNat ≤ 0xFF5E then [(Char.ofNat (c.toNat - 0xFEE0)).toLower]
  else (Text.lowercase c.toString).toList

/-- The characters that end or divide addresses, and the one that ends texts. -/
def isDelimiter (c : Char) : Bool :=
  c == '\x00' || [' ', '#', '/', ':', '<', '>', '?', '@', '[', '\\', ']', '^', '|'].contains c

def isForbidden (c : Char) : Bool :=
  if c.toNat < 128 then
    c.toNat < 0x20 || c.toNat == 0x7F || c == '%' || isDelimiter c
  else Text.unprintable.contains c

def isAscii (c : Char) : Bool := c.toNat < 128

/-- The mark of labels whose letters beyond ASCII are written as differences. -/
def mark : List Char := ['x', 'n', '-', '-']

def markedText (label : List Char) : List Char :=
  mark ++ Punycode.encode label

/-- Whether a marked label spells another in the way in which that would be written. -/
def isMarkedText (text : List Char) : Bool :=
  match Punycode.decode? (text.drop mark.length) with
  | some label => !label.all isAscii && !label.any isForbidden &&
      label.flatMap plainForm == label && markedText label == text
  | none => false

def labelText? (label : List Char) : Option (List Char) :=
  if mark.isPrefixOf label then if isMarkedText label then some label else none
  else if label.all isAscii then some label
  else some (markedText label)

def nameText? (name : String) : Option (List Char) := do
  let cs := name.toList.flatMap plainForm
  if cs.any isForbidden then none
  else
    let labels ← (Text.splitWhere (· == '.') cs).mapM labelText?
    some (['.'].intercalate labels)

/-! ### Hosts of either kind -/

/-- A number between brackets, if the text begins with one. -/
def bracketed? (cs : List Char) : Option (Except UrlError String) :=
  if cs.head? ≠ some '[' then none
  else if cs.getLast? ≠ some ']' then some (.error .invalidIPv6)
  else match ipv6? (cs.drop 1).dropLast with
    | some ps => some (.ok (ipv6Text ps))
    | none => some (.error .invalidIPv6)

/-- The host of a scheme that the web knows. -/
def domain (cs : List Char) : Except UrlError String :=
  match bracketed? cs with
  | some result => result
  | none =>
    let bytes := Text.Percent.decode (Text.Utf8.bytes (String.ofList cs))
    match (Text.Utf8.text? bytes).bind nameText? with
    | none => .error .invalidInternationalName
    | some [] => .error .emptyHost
    | some name =>
      if endsInNumber name then
        match ipv4? name with
        | some n => .ok (ipv4Text n)
        | none => .error .invalidIPv4
      else .ok (String.ofList name)

/-- The host of any other scheme, which has no structure of its own. -/
def free (cs : List Char) : Except UrlError String :=
  match bracketed? cs with
  | some result => result
  | none =>
    if cs.any isDelimiter then .error .invalidDomainCharacter
    else
      let isPlain (b : UInt8) : Bool := 0x20 ≤ b.toNat && b.toNat ≤ 0x7E
      .ok (String.ofList (Text.Percent.encode isPlain (Text.Utf8.bytes (String.ofList cs))))

end FacetSearch.Url.Host
