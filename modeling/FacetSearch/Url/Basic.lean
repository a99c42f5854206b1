import FacetSearch.Number.Decimal
import FacetSearch.Text.Blank
import FacetSearch.Text.Form

/-!
# Addresses

An address in parts, each in its final spelling, and its text. A path is either a list of segments or,
for schemes without a hierarchy, one plain text.
-/

namespace FacetSearch

inductive UrlError where
  | emptyHost
  | invalidPort
  | invalidIPv4
  | invalidIPv6
  | invalidInternationalName
  | invalidDomainCharacter
  /-- There is no scheme, and nothing that the address could be relative to. -/
  | relative
  deriving DecidableEq, Repr

def UrlError.message : UrlError → String
  | emptyHost => "empty host"
  | invalidPort => "invalid port number"
  | invalidIPv4 => "invalid IPv4 address"
  | invalidIPv6 => "invalid IPv6 address"
  | invalidInternationalName => "invalid international domain name"
  | invalidDomainCharacter => "invalid domain character"
  | relative => "relative URL without a base"

structure Authority where
  username : String := ""
  password : String := ""
  host : String
  /-- The port, unless it is the scheme's own. -/
  port : Option Nat := none
  deriving DecidableEq, Repr

def Authority.text (a : Authority) : String :=
  let password := if a.password = "" then "" else ":" ++ a.password
  let user := a.username ++ password
  let port := (a.port.map fun p => ":" ++ String.ofList (Number.Decimal.render p)).getD ""
  (if user = "" then "" else user ++ "@") ++ a.host ++ port

inductive UrlPath where
  | plain (text : String)
  | segments (parts : List String)
  deriving DecidableEq, Repr

def UrlPath.text : UrlPath → String
  | plain text => text
  | segments [] => ""
  | segments parts => "/" ++ Text.join "/" parts

structure Url where
  scheme : String
  authority : Option Authority
  path : UrlPath
  query : Option String := none
  fragment : Option String := none
  deriving DecidableEq, Repr

namespace Url

/-- What stands between the scheme and the path. A path that would look like an authority is set off
by a dot. -/
def authorityText (u : Url) : String :=
  match u.authority with
  | some a => "//" ++ a.text
  | none => if Text.startsWith "//" u.path.text then "/." else ""

def text (u : Url) : String :=
  u.scheme ++ ":" ++ u.authorityText ++ u.path.text ++
    (u.query.map ("?" ++ ·)).getD "" ++ (u.fragment.map ("#" ++ ·)).getD ""

def withPairs (u : Url) (pairs : List (String × String)) : Url :=
  if pairs.isEmpty then
    match u.path, u.fragment with
    | .plain text, none => { u with query := none, path := .plain (Text.trimEnd ' ' text) }
    | _, _ => { u with query := none }
  else { u with query := some (Text.Form.encode pairs) }

theorem query_withPairs (u : Url) {pairs : List (String × String)} (h : pairs ≠ []) :
    (u.withPairs pairs).query = some (Text.Form.encode pairs) := by
  simp [withPairs, h]

end Url
end FacetSearch
