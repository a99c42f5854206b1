import FacetSearch.Settings.Basic

/-!
# The command line

Every setting is an option of the command line, with a variable of the environment behind it: the
command line is heard first, then the environment, then the default. Arguments are read from left to
right; the value of an option is looked at when the next option or the end is met.
-/

namespace FacetSearch

inductive CommandLineError where
  /-- A value is no number, or one out of range. -/
  | valueValidation
  | unknownArgument
  /-- A value is missing, or is none of those possible. -/
  | invalidValue
  /-- An option is given twice. -/
  | argumentConflict
  | tooManyValues
  | displayHelp
  deriving DecidableEq, Repr

/-- What the value of an option is, and what it sets. A signed number may be a negative zero. -/
inductive Slot where
  | number (signed : Bool) (limit : Nat) (set : Nat → Settings → Settings)
  | text (set : String → Settings → Settings)
  | path (set : String → Settings → Settings)
  | switch (set : Bool → Settings → Settings)

structure CommandOption where
  name : String
  short : Option Char := none
  envVar : String
  slot : Slot

namespace Slot

def isNegativeZero (s : String) : Bool :=
  match s.toList with
  | '-' :: c :: rest => (c :: rest).all (· == '0')
  | _ => false

def read (slot : Slot) (value : String) : Except CommandLineError (Settings → Settings) :=
  match slot with
  | number signed limit set =>
    if signed && isNegativeZero value then .ok (set 0)
    else match Number.Decimal.read? limit value.toList with
      | some n => .ok (set n)
      | none => .error .valueValidation
  | text set => .ok (set value)
  | path set => if value = "" then .error .invalidValue else .ok (set value)
  | switch set =>
    if value = "true" then .ok (set true)
    else if value = "false" then .ok (set false)
    else .error .invalidValue

def isSwitch : Slot → Bool
  | switch _ => true
  | _ => false

end Slot

namespace CommandLine

open Number (maxWord)

/-- The options, in the order in which the environment is looked through. -/
def options : List CommandOption := [
  { name := "port", short := some 'p', envVar := "SCHOLAR_SERVER_PORT"
    slot := .number true 65535 fun n s => { s with port := n } },
  { name := "host", envVar := "SCHOLAR_SERVER_HOST", slot := .text fun v s => { s with host := v } },
  { name := "log-level", envVar := "SCHOLAR_LOG_LEVEL"
    slot := .text fun v s => { s with logLevel := v } },
  { name := "request-timeout", envVar := "SCHOLAR_REQUEST_TIMEOUT"
    slot := .number false maxWord fun n s => { s with requestTimeout := n } },
  { name := "enable-cors", envVar := "SCHOLAR_ENABLE_CORS"
    slot := .switch fun b s => { s with crossOrigin := b } },
  { name := "cors-origins", envVar := "SCHOLAR_CORS_ORIGINS"
    slot := .text fun v s => { s with origins := v } },
  { name := "cors-headers", envVar := "SCHOLAR_CORS_HEADERS"
    slot := .text fun v s => { s with originHeaders := v } },
  { name := "base-url", envVar := "SCHOLAR_BASE_URL"
    slot := .text fun v s => { s with baseUrl := v } },
  { name := "api-host", envVar := "SCHOLAR_API_HOST"
    slot := .text fun v s => { s with apiHost := v } },
  { name := "index-prefix", envVar := "SCHOLAR_INDEX_PREFIX"
    slot := .text fun v s => { s with indexPrefix := v } },
  { name := "default-page-size", envVar := "SCHOLAR_DEFAULT_PAGE_SIZE"
    slot := .number false maxWord fun n s => { s with defaultPageSize := some n } },
  { name := "max-page-size", envVar := "SCHOLAR_MAX_PAGE_SIZE"
    slot := .number false maxWord fun n s => { s with maxPageSize := n } },
  { name := "promotion-timeout-ms", envVar := "SCHOLAR_PROMOTION_TIMEOUT_MS"
    slot := .number false maxWord fun n s => { s with promotionTimeout := n } },
  { name := "promotions-file", envVar := "SCHOLAR_PROMOTIONS_FILE"
    slot := .path fun v s => { s with promotionsFile := some v } },
  { name := "elasticsearch-nodes", envVar := "SCHOLAR_ES_NODES"
    slot := .text fun v s => { s with nodes := v } },
  { name := "elasticsearch-username", envVar := "SCHOLAR_ES_USERNAME"
    slot := .text fun v s => { s with username := some v } },
  { name := "elasticsearch-password", envVar := "SCHOLAR_ES_PASSWORD"
    slot := .text fun v s => { s with password := some v } }]

structure Reading where
  settings : Settings := {}
  given : List String := []
  /-- An option whose value has not been looked at, with the value if it has come. -/
  pending : Option (CommandOption × Option String) := none
  /-- Whether two dashes have ended the options. -/
  closed : Bool := false

namespace Reading

def give (r : Reading) (o : CommandOption) (value : String) : Except CommandLineError Reading := do
  if r.given.contains o.name then throw .argumentConflict
  let set ← o.slot.read value
  return { r with settings := set r.settings, given := o.name :: r.given }

def settle (r : Reading) : Except CommandLineError Reading :=
  match r.pending with
  | none => .ok r
  | some (_, none) => .error .invalidValue
  | some (o, some value) => { r with pending := none }.give o value

def help (r : Reading) : Except CommandLineError Reading :=
  r.settle.bind fun _ => .error .displayHelp

/-- An option with the value that is attached to it, if there is one. -/
def takeOption (r : Reading) (o : CommandOption) (attached : Option String) :
    Except CommandLineError Reading :=
  match o.slot.isSwitch, attached with
  | true, some _ => .error .tooManyValues
  | true, none => r.settle.bind fun r => r.give o "true"
  | false, some value => r.settle.bind fun r => r.give o value
  | false, none => r.settle.map fun r => { r with pending := some (o, none) }

def takeLong (r : Reading) (cs : List Char) : Except CommandLineError Reading :=
  let (name, attached) := match Text.cutAt '=' cs with
    | some (name, value) => (String.ofList name, some (String.ofList value))
    | none => (String.ofList cs, none)
  if name = "help" then
    if attached.isSome then .error .tooManyValues else r.help
  else match options.find? (·.name == name) with
    | some o => r.takeOption o attached
    | none => .error .unknownArgument

def takeShort (r : Reading) (c : Char) (rest : List Char) : Except CommandLineError Reading :=
  if c = 'h' then r.help
  else match options.find? (·.short == some c) with
    | none => .error .unknownArgument
    | some o =>
      match rest with
      | [] => r.takeOption o none
      | '=' :: value => r.takeOption o (some (String.ofList value))
      | value => r.takeOption o (some (String.ofList value))

/-- An argument that is no option: the value of the option before it. -/
def takeValue (r : Reading) (value : String) : Except CommandLineError Reading :=
  match r.pending with
  | some (o, none) => .ok { r with pending := some (o, some value) }
  | _ => .error .unknownArgument

def take (r : Reading) (argument : String) : Except CommandLineError Reading :=
  if r.closed then .error .unknownArgument
  else match argument.toList with
    | ['-', '-'] => .ok { r with closed := true }
    | '-' :: '-' :: cs => r.takeLong cs
    | '-' :: c :: rest => r.takeShort c rest
    | _ => r.takeValue argument

/-- Hears the environment for one option, unless it has been given. -/
def takeVariable (environment : String → Option String) (r : Reading) (o : CommandOption) :
    Except CommandLineError Reading :=
  if r.given.contains o.name then .ok r
  else match environment o.envVar with
    | some value => r.give o value
    | none => .ok r

end Reading

def read (arguments : List String) (environment : String → Option String) :
    Except CommandLineError Settings := do
  let r ← arguments.foldlM Reading.take {}
  let r ← r.settle
  let r ← options.foldlM (Reading.takeVariable environment) r
  return r.settings

/-- The settings that an environment alone makes; the defaults if it is not taken. -/
def readEnvironment (environment : String → Option String) : Settings :=
  (read [] environment).toOption.getD {}

end CommandLine
end FacetSearch
