import FacetSearch.Server.Start
import FacetSearch.Settings.Usage

/-!
# The program

Hands the arguments, the environment and the file of promoted records to `Server.start`, and writes
what it says. No sockets are opened here: listening fails as it does on a machine without them.
-/

namespace FacetSearch

def environmentNames : List String :=
  CommandLine.options.map (·.envVar) ++ ["RUST_LOG"]

def readEnvironment : IO (String → Option String) := do
  let found ← environmentNames.mapM fun name => do return (name, ← IO.getEnv name)
  return fun name => (found.lookup name).join

def readContent (path : String) : IO (Except String String) := do
  match ← (IO.FS.readFile path).toBaseIO with
  | .ok content => return .ok content
  | .error (.noFileOrDirectory ..) => return .error "No such file or directory (os error 2)"
  | .error (.permissionDenied ..) => return .error "Permission denied (os error 13)"
  | .error (.inappropriateType ..) => return .error "Is a directory (os error 21)"
  | .error e => return .error e.toString

def readMachine (arguments : List String) : IO Server.Machine := do
  let environment ← readEnvironment
  let path := (CommandLine.read arguments environment).toOption.bind (·.promotionsFile)
  let content ← match path with
    | some path => readContent path
    | none => pure (.error "")
  return {
    arguments := arguments
    environment := environment
    file := fun _ => content
    listen := fun _ => .error "Operation not supported (os error 95)" }

end FacetSearch

open FacetSearch

def main (arguments : List String) : IO UInt32 := do
  let ending := Server.start (← readMachine arguments)
  match ending with
  | .usage e =>
    e.output.forM IO.println
    e.complaint.forM IO.eprintln
  | .stopped _ errors log =>
    log.forM IO.println
    errors.forM IO.eprintln
  return ending.code.toUInt32
