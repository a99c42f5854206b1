import FacetSearch.Number.Decimal

/-!
# Failures of the engine
-/

namespace FacetSearch

inductive EngineFailure where
  | unavailable (engine message : String)
  /-- It answered with an error, or with something that cannot be read. -/
  | badResponse (engine : String) (status : Nat) (message : String)
  | timeout (engine : String) (milliseconds : Nat)
  deriving DecidableEq, Repr

namespace EngineFailure

def message : EngineFailure → String
  | unavailable engine message => "search engine unavailable: " ++ engine ++ ": " ++ message
  | badResponse engine status message =>
    "bad response from " ++ engine ++ " (status " ++
      String.ofList (Number.Decimal.render status) ++ "): " ++ message
  | timeout engine milliseconds =>
    engine ++ " timed out after " ++ String.ofList (Number.Decimal.render milliseconds) ++ "ms"

end EngineFailure
end FacetSearch
