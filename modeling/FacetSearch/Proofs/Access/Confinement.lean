import FacetSearch.Proofs.Catalogue.Shipped
import FacetSearch.Proofs.Query.Semantics

/-!
# Confinement

Every query that a search puts to the engine is confined by a filter that the kind of record, the API
host and the organisation headers decide alone. Whatever is asked for and promoted, no document that
the filter refuses is shown or counted.
-/

namespace FacetSearch.Service

open Clause

variable {Object : Type} {i : Interpretation Object}

/-! ### What may be seen -/

/-- The organisations that header values name: the segments between commas that are not blank. -/
def segments (values : List String) : List String :=
  values.flatMap fun value => ((Text.split ',' value).map Text.trim).filter (· != "")

variable {settings : Settings} {engine : String} {service : Service}

/-- Every question to the engine that an exchange may come to is one of these. -/
def Exchange.Asks (P : EngineCall → Prop) : Exchange α → Prop
  | done _ => True
  | askPromotions _ next => ∀ answer, (next answer).Asks P
  | askEngine index body next => P ⟨index, body⟩ ∧ ∀ answer, (next answer).Asks P
  | askTime next => ∀ time, (next time).Asks P

theorem Exchange.Asks.map {P : EngineCall → Prop} {f : α → β} {x : Exchange α} (h : x.Asks P) :
    (x.map f).Asks P := by
  induction x with
  | done value => trivial
  | askPromotions subject next ih => exact fun answer => ih answer (h answer)
  | askEngine index body next ih => exact ⟨h.1, fun answer => ih answer (h.2 answer)⟩
  | askTime next ih => exact fun time => ih time (h time)

theorem Exchange.Asks.run {P : EngineCall → Prop} {x : Exchange Response} (h : x.Asks P)
    (s : Settings) (w : Surroundings) : ∀ call ∈ (x.run s w).2, P call := by
  induction x with
  | done response =>
    intro call hc
    cases hc
  | askPromotions subject next ih =>
    rw [Exchange.run]
    split
    · rename_i answer _
      exact ih answer (h answer)
    · split
      · exact ih .late (h .late)
      · intro call hc
        cases hc
  | askEngine index body next ih =>
    rw [Exchange.run]
    split
    · rename_i answer _
      intro call hc
      rcases List.mem_cons.mp hc with rfl | hc
      · exact h.1
      · exact ih answer (h.2 answer) call hc
    · intro call hc
      obtain rfl := List.mem_singleton.mp hc
      exact h.1
  | askTime next ih =>
    rw [Exchange.run]
    exact ih w.time (h w.time)

end FacetSearch.Service
