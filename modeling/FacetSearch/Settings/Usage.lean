import FacetSearch.Settings.CommandLine

/-!
# Usage

What a caller is told whose command line is not taken, or who asks for help.
-/

namespace FacetSearch

def CommandLineError.message : CommandLineError → String
  | valueValidation => "a value is no number, or is out of range"
  | unknownArgument => "an argument is not known"
  | invalidValue => "a value is missing, or is not one of those possible"
  | argumentConflict => "an option is given twice"
  | tooManyValues => "a switch takes no value"
  | displayHelp => "help is asked for"

namespace CommandOption

def usage (o : CommandOption) : String :=
  let short := match o.short with
    | some c => "  -" ++ c.toString ++ ", "
    | none => "      "
  let value := if o.slot.isSwitch then "" else " <VALUE>"
  short ++ "--" ++ o.name ++ value ++ " [env: " ++ o.envVar ++ "]"

end CommandOption

namespace CommandLine

def usage : List String :=
  ["Usage: scholar [OPTIONS]", "", "Options:"] ++ options.map (·.usage) ++ ["  -h, --help"]

end CommandLine

namespace CommandLineError

def output : CommandLineError → List String
  | displayHelp => CommandLine.usage
  | _ => []

def complaint : CommandLineError → List String
  | displayHelp => []
  | e => ["error: " ++ e.message]

end CommandLineError
end FacetSearch
