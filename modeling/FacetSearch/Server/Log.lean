import FacetSearch.Number.Decimal
import FacetSearch.Text.Blank
import FacetSearch.Text.Letters
import FacetSearch.Text.Split

/-!
# Log lines

A line has a level and a target. A filter is a list of directives, each of which lets lines up to a
level through; of the directives whose target a line's target begins with, the longest decides.
-/

namespace FacetSearch.Server

inductive Level where
  | error
  | warn
  | info
  | debug
  | trace
  deriving DecidableEq, Repr

namespace Level

def name : Level → String
  | error => "ERROR"
  | warn => "WARN"
  | info => "INFO"
  | debug => "DEBUG"
  | trace => "TRACE"

def rank : Level → Nat
  | error => 1
  | warn => 2
  | info => 3
  | debug => 4
  | trace => 5

def rank? (word : String) : Option Nat :=
  match [error, warn, info, debug, trace].find? fun l => Text.sameWord l.name word with
  | some l => some l.rank
  | none =>
    if Text.sameWord word "off" then some 0 else Number.Decimal.read? 5 word.toList

end Level

structure LogLine where
  level : Level
  /-- The part of the service that speaks. -/
  target : String
  message : String
  fields : List (String × String) := []
  deriving DecidableEq, Repr

def LogLine.text (l : LogLine) : String :=
  l.level.name ++ " " ++ l.target ++ ": " ++ l.message ++
    String.join (l.fields.map fun (name, value) => " " ++ name ++ "=" ++ value)

structure Directive where
  /-- What targets begin with; nothing for all of them. -/
  target : String
  rank : Nat
  deriving DecidableEq, Repr

inductive DirectiveError where
  | malformed
  | unknownLevel
  deriving DecidableEq, Repr

def DirectiveError.message : DirectiveError → String
  | malformed => "invalid filter directive"
  | unknownLevel => "error parsing level filter: expected one of \"off\", \"error\", \"warn\", " ++
    "\"info\", \"debug\", \"trace\", or a number 0-5"

namespace Directive

def mayBegin (c : Char) : Bool :=
  c.isAlphanum || c == '-' || c == ':' || c == '_' || 128 ≤ c.toNat

/-- A directive is `target=level`, a level for all targets, or a target for all levels. Blanks before
a target that has a level are not understood; before another they belong to it. -/
def parse (s : String) : Except DirectiveError Directive :=
  match (Text.trim s).toList.head? with
  | none => .error .malformed
  | some c =>
    if !mayBegin c then .error .malformed
    else match Text.splitOnce '=' s with
      | some (target, level) =>
        if s.toList.head? != some c then .error .unknownLevel
        else if level = "" then .ok ⟨target, Level.trace.rank⟩
        else match Level.rank? level with
          | some rank => .ok ⟨target, rank⟩
          | none => .error .unknownLevel
      | none =>
        match Level.rank? s with
        | some rank => .ok ⟨"", rank⟩
        | none => .ok ⟨s, Level.trace.rank⟩

end Directive

structure LogFilter where
  directives : List Directive
  deriving DecidableEq, Repr

namespace LogFilter

def parts (s : String) : List String := (Text.split ',' s).filter (· != "")

def parse? (s : String) : Option LogFilter :=
  ((parts s).mapM fun part => (Directive.parse part).toOption).map LogFilter.mk

/-- The filter that a level makes for the service, and a complaint about each directive that is not
understood. -/
def ofLevel (level : String) : LogFilter × List String :=
  let read := (parts (Text.join "," (["scholar", "scholar_rest", "scholar_search"].map
    (· ++ "=" ++ level) ++ ["tower_http=info"]))).map fun part => (part, Directive.parse part)
  (⟨read.filterMap (·.2.toOption)⟩, read.filterMap fun (part, result) =>
    match result with
    | .ok _ => none
    | .error e => some ("ignoring \x60" ++ part ++ "\x60: " ++ e.message))

/-- How much the filter lets through of a target. A later directive for the same target counts. -/
def rankFor (f : LogFilter) (target : String) : Nat :=
  if f.directives.isEmpty then Level.error.rank
  else
    let best := f.directives.foldl (fun (best : Option Directive) d =>
      if Text.startsWith d.target target ∧ (best.map (·.target.length)).getD 0 ≤ d.target.length
      then some d else best) none
    (best.map (·.rank)).getD 0

def passes (f : LogFilter) (l : LogLine) : Bool :=
  l.level.rank ≤ f.rankFor l.target

end LogFilter
end FacetSearch.Server
