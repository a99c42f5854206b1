import FacetSearch.Text.Letters
import FacetSearch.Url.Host

/-!
# Reading addresses

`Url.parse` takes a text apart and brings each part into its final spelling: the scheme and the host in
small letters, dot segments resolved, and what cannot stand as it is percent-encoded.
-/

namespace FacetSearch
namespace Url.Parser

/-! ### What is percent-encoded where -/

def isControl (b : UInt8) : Bool := b.toNat < 0x20 || 0x7E < b.toNat

/-- Whether the byte is none of the characters and no control. -/
def plainBut (excluded : String) (b : UInt8) : Bool :=
  !isControl b && !excluded.toList.any fun c => c.toNat == b.toNat

def fragmentExcluded : String := " \"<>\x60"
def pathExcluded : String := fragmentExcluded ++ "#?\x7b\x7d"
def userExcluded : String := pathExcluded ++ "/:;=@[\\]^|"
def queryExcluded : String := " \"#<>"

def encoded (excluded : String) (cs : List Char) : String :=
  String.ofList (Text.Percent.encode (plainBut excluded) (Text.Utf8.bytes (String.ofList cs)))

/-! ### Schemes -/

/-- The schemes that the web knows, with their ports. -/
def specialPorts : List (String × Option Nat) := [("http", some 80), ("https", some 443),
  ("ws", some 80), ("wss", some 443), ("ftp", some 21), ("file", none)]

def isSpecial (scheme : String) : Bool :=
  specialPorts.any (·.1 == scheme)

def defaultPort? (scheme : String) : Option Nat :=
  (specialPorts.find? (·.1 == scheme)).bind (·.2)

def inScheme (c : Char) : Bool :=
  c.isAlphanum || c == '+' || c == '-' || c == '.'

/-- The scheme in small letters and what follows its colon. -/
def scheme? (cs : List Char) : Option (String × List Char) :=
  match cs.takeWhile inScheme, cs.dropWhile inScheme with
  | c :: name, ':' :: rest =>
    if c.isAlpha then some (Text.lower (String.ofList (c :: name)), rest) else none
  | _, _ => none

def isSlash (special : Bool) (c : Char) : Bool :=
  c == '/' || (special && c == '\\')

/-! ### Authorities -/

/-- What stands before and after the last copy of `separator`. -/
def cutAtLast (separator : Char) (cs : List Char) : Option (List Char × List Char) :=
  (Text.cutAt separator cs.reverse).map fun (after, before) => (before.reverse, after.reverse)

/-- The host and what follows it: a colon outside brackets ends it. -/
def hostEnd (inside : Bool) : List Char → List Char × List Char
  | [] => ([], [])
  | c :: rest =>
    if c == ':' && !inside then ([], c :: rest)
    else
      let (host, after) := hostEnd (if c == '[' then true else if c == ']' then false else inside) rest
      (c :: host, after)

/-- The port behind a colon; none if there are no digits or it is the scheme's own. -/
def port (scheme : String) : List Char → Except UrlError (Option Nat)
  | [] | [_] => .ok none
  | _ :: cs =>
    match Number.Decimal.digits? cs with
    | some n =>
      if 65535 < n then .error .invalidPort
      else .ok (if defaultPort? scheme = some n then none else some n)
    | none => .error .invalidPort

/-- The user, encoded, and the rest. Colons behind the first belong to the password. -/
def userInfo (cs : List Char) : Authority :=
  let (name, password) := (Text.cutAt ':' cs).getD (cs, [])
  { username := encoded userExcluded name, password := encoded userExcluded password, host := "" }

def authority (scheme : String) (more : Bool) (cs : List Char) : Except UrlError Authority := do
  let (user, rest) := (cutAtLast '@' cs).getD ([], cs)
  if more ∧ rest.isEmpty ∧ cs = ['@'] then throw .emptyHost
  let (host, after) := hostEnd false rest
  let special := isSpecial scheme
  if host.isEmpty ∧ (special ∨ !after.isEmpty) then throw .emptyHost
  let host ← if special then Host.domain host else Host.free host
  let port ← port scheme after
  let who := userInfo user
  if host = "" ∧ (who.username ≠ "" ∨ who.password ≠ "") then throw .emptyHost
  return { who with host, port }

/-! ### Paths -/

def isSingleDot (s : String) : Bool :=
  [".", "%2e"].contains (Text.lower s)

def isDoubleDot (s : String) : Bool :=
  ["..", ".%2e", "%2e.", "%2e%2e"].contains (Text.lower s)

/-- A letter and a colon or bar, which names a volume. -/
def isVolume (s : String) : Bool :=
  match s.toList with
  | [c, mark] => c.isAlpha && (mark == ':' || mark == '|')
  | _ => false

def leave (file : Bool) (done : List String) : List String :=
  if file && (done.getLast?.map isVolume).getD false then done else done.dropLast

/-- The segments with dot segments resolved; `done` is what stands before them. -/
def resolveDots (file : Bool) (done : List String) : List String → List String
  | [] => done
  | part :: rest =>
    if isDoubleDot part then
      resolveDots file (leave file done ++ if rest.isEmpty then [""] else []) rest
    else if isSingleDot part then resolveDots file (done ++ if rest.isEmpty then [""] else []) rest
    else
      let part := if file && isVolume part then String.ofList (part.toList.take 1 ++ [':']) else part
      resolveDots file (done ++ [part]) rest

def segments (scheme : String) (cs : List Char) : List String :=
  let parts := (Text.splitWhere (isSlash (isSpecial scheme)) cs).map (encoded pathExcluded)
  let resolved := resolveDots (scheme == "file") [] parts
  if scheme = "file" then
    let named := resolved.dropWhile (· == "")
    if named.isEmpty then [""] else named
  else resolved

def pathAfter (scheme : String) (cs : List Char) : UrlPath :=
  match cs with
  | [] => .segments (if isSpecial scheme then [""] else [])
  | c :: rest => .segments (segments scheme (if isSlash (isSpecial scheme) c then rest else cs))

/-! ### The whole -/

/-- What stands before a question mark or hash and what follows it. -/
def cutOff (mark : Char) (cs : List Char) : List Char × Option (List Char) :=
  match Text.cutAt mark cs with
  | some (before, after) => (before, some after)
  | none => (cs, none)

def filePlace (cs : List Char) : Except UrlError (Authority × UrlPath) :=
  let path (cs : List Char) : UrlPath := .segments (segments "file" cs)
  let slash := isSlash true
  match cs with
  | a :: b :: rest =>
    if slash a && slash b then
      let host := rest.takeWhile (!slash ·)
      if isVolume (String.ofList host) then .ok ({ host := "" }, path rest)
      else
        let place (name : String) : Authority × UrlPath :=
          let path := pathAfter "file" (rest.dropWhile (!slash ·))
          match path with
          | .segments (first :: _) => ({ host := if isVolume first then "" else name }, path)
          | _ => ({ host := name }, path)
        if host.isEmpty then .ok (place "")
        else (Host.domain host).map fun name => place (if name = "localhost" then "" else name)
    else .ok ({ host := "" }, path (if slash a then b :: rest else cs))
  | [a] => .ok ({ host := "" }, path (if slash a then [] else cs))
  | [] => .ok ({ host := "" }, path [])

/-- Authority and path behind a scheme; `more` says whether a query or fragment follows. -/
def place (scheme : String) (more : Bool) (cs : List Char) :
    Except UrlError (Option Authority × UrlPath) :=
  let special := isSpecial scheme
  let behind (cs : List Char) : Except UrlError (Option Authority × UrlPath) :=
    let path := cs.dropWhile (!isSlash special ·)
    (authority scheme (more || !path.isEmpty) (cs.takeWhile (!isSlash special ·))).map
      fun a => (some a, pathAfter scheme path)
  if scheme = "file" then (filePlace cs).map fun (a, path) => (some a, path)
  else if special then behind (cs.dropWhile (isSlash special))
  else match cs with
    | '/' :: '/' :: rest => behind rest
    | '/' :: rest => .ok (none, .segments (segments scheme rest))
    | _ => .ok (none, .plain (encoded "" cs))

/-- Blanks and controls around an address are no part of it. -/
def isPadding (c : Char) : Bool := c.toNat ≤ 0x20

def isLineBreak (c : Char) : Bool := c == '\t' || c == '\n' || c == '\r'

end Url.Parser

open Url.Parser in
def Url.parse (s : String) : Except UrlError Url :=
  let cs := (Text.stripWhere isPadding s.toList).filter (!isLineBreak ·)
  match scheme? cs with
  | none => .error .relative
  | some (scheme, rest) => do
    let (rest, fragment) := cutOff '#' rest
    let (rest, query) := cutOff '?' rest
    let (authority, path) ← place scheme (query.isSome || fragment.isSome) rest
    let excluded := if isSpecial scheme then queryExcluded ++ "'" else queryExcluded
    return { scheme, authority, path
             query := query.map (encoded excluded)
             fragment := fragment.map (encoded fragmentExcluded) }

end FacetSearch
