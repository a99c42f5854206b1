import FacetSearch.Engine.Failure
import FacetSearch.Json.Basic
import FacetSearch.Promotion
import FacetSearch.Service.Message
import FacetSearch.Settings.Basic

/-!
# Exchanges

Answering a request may take questions to others: which records are promoted, what the engine finds,
what time it is. An exchange says what is asked, one question at a time, and what becomes of the
answer. `Exchange.run` puts the questions to given surroundings and keeps the deadlines.
-/

namespace FacetSearch.Service

inductive Exchange (α : Type) where
  | done (value : α)
  | askPromotions (subject : String) (next : PromotionLookup → Exchange α)
  | askEngine (index : String) (body : Json) (next : Except EngineFailure Json → Exchange α)
  | askTime (next : String → Exchange α)

namespace Exchange

def map (f : α → β) : Exchange α → Exchange β
  | done value => done (f value)
  | askPromotions subject next => askPromotions subject fun answer => (next answer).map f
  | askEngine index body next => askEngine index body fun answer => (next answer).map f
  | askTime next => askTime fun time => (next time).map f

end Exchange

/-- Who the questions are put to; nothing is the answer of one who never answers. -/
structure Surroundings where
  promotions : String → Option PromotionLookup
  engine : String → Json → Option (Except EngineFailure Json)
  time : String

structure EngineCall where
  index : String
  body : Json
  deriving Repr, BEq

/-- What is said when a request has taken too long. -/
def tooLate : Response := { status := 408 }

namespace Exchange

/-- The response, and the questions that the engine was asked. Promoted records are waited for as long
as the settings say, and everything together no longer than a request may take. -/
def run (s : Settings) (w : Surroundings) : Exchange Response → Response × List EngineCall
  | done response => (response, [])
  | askPromotions subject next =>
    match w.promotions subject with
    | some answer => (next answer).run s w
    | none =>
      if s.promotionTimeout ≤ s.requestTimeout * 1000 then (next .late).run s w else (tooLate, [])
  | askEngine index body next =>
    match w.engine index body with
    | some answer =>
      let (response, calls) := (next answer).run s w
      (response, ⟨index, body⟩ :: calls)
    | none => (tooLate, [⟨index, body⟩])
  | askTime next => (next w.time).run s w

end Exchange
end FacetSearch.Service
