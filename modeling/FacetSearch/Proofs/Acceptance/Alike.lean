import FacetSearch.Proofs.Acceptance.Final
import FacetSearch.Proofs.Acceptance.Gathering

/-!
# Criteria alike in their presentation

Apart from the form of single values, the stages of acceptance look at the parameters of the
presentation and at which names are there. Criteria that are alike in this pass or fail them together
and stay alike; the entries of the query are only put into their final form.
-/

namespace FacetSearch

open Control (offsetParameter sizeParameter sortParameter aggregationParameter)
open Entry (upsert)

/-- Both are refused for offences of one kind, or both return something and `R` relates it. -/
def Matched (R : α → β → Prop) : Except Refusal α → Except Refusal β → Prop
  | .ok a, .ok b => R a b
  | .error r, .error r' => r.kind = r'.kind
  | _, _ => False

theorem Matched.bind {R : α → β → Prop} {S : γ → δ → Prop} {x : Except Refusal α}
    {y : Except Refusal β} {f : α → Except Refusal γ} {g : β → Except Refusal δ} (first : Matched R x y)
    (next : ∀ a b, R a b → Matched S (f a) (g b)) : Matched S (x >>= f) (y >>= g) := by
  cases x with
  | error r =>
    cases y with
    | error r' => exact first
    | ok b => exact first.elim
  | ok a =>
    cases y with
    | error r' => exact first.elim
    | ok b => exact next a b first

theorem Matched.mono {R S : α → β → Prop} {x : Except Refusal α} {y : Except Refusal β}
    (matched : Matched R x y) (weaker : ∀ a b, x = .ok a → y = .ok b → R a b → S a b) : Matched S x y := by
  cases x with
  | error r =>
    cases y with
    | error r' => exact matched
    | ok b => exact matched.elim
  | ok a =>
    cases y with
    | error r' => exact matched.elim
    | ok b => exact weaker a b rfl rfl matched

theorem Matched.of_eq {x y : Except Refusal α} (same : x = y) : Matched Eq x y := by
  subst same
  cases x with
  | error r => exact rfl
  | ok a => exact rfl

theorem Matched.exists_ok {R : α → β → Prop} {x : Except Refusal α} {y : Except Refusal β} {a : α}
    (matched : Matched R x y) (returned : x = .ok a) : ∃ b, y = .ok b ∧ R a b := by
  subst returned
  cases y with
  | error r' => exact matched.elim
  | ok b => exact ⟨b, rfl, matched⟩

variable {dt : DocumentType} {apiHost : String} {catalogue : Catalogue} {c c' : Criteria}
  {p : Parameter} {name : String} {change : Option String → String} {extra : List String}
  {limits : Limits} {pairs pairs' : List (String × String)}

/-- Criteria that agree on the presentation and on which names are there. -/
structure IsAlike (dt : DocumentType) (c c' : Criteria) : Prop where
  placed : c.IsPlaced dt
  placed' : c'.IsPlaced dt
  required : c.required = c'.required
  control : ∀ p ∈ dt.definition.allParameters, p.scope = .control → c.entry? p.name = c'.entry? p.name
  contains : ∀ name, c.contains name = c'.contains name

namespace IsAlike

section

variable (alike : IsAlike dt c c') (hp : p ∈ dt.definition.allParameters) (control : p.scope = .control)
include alike hp control

theorem get? : c.get? p.name = c'.get? p.name := Criteria.get?_congr (alike.control p hp control)

theorem number? : c.number? p.name = c'.number? p.name :=
  Criteria.number?_congr (alike.control p hp control)

theorem modifyFor : IsAlike dt (c.modifyFor p (upsert p change)) (c'.modifyFor p (upsert p change)) := by
  have entry : ∀ name, (c.entry? name = c'.entry? name ∨ name = p.name) →
      Criteria.entry? (c.modifyFor p (upsert p change)) name =
        Criteria.entry? (c'.modifyFor p (upsert p change)) name := by
    intro name same
    by_cases own : name = p.name
    · rw [own, alike.placed.entry?_modifyFor_self hp, alike.placed'.entry?_modifyFor_self hp,
        alike.get? hp control]
    · rw [Criteria.entry?_modifyFor_of_ne own, Criteria.entry?_modifyFor_of_ne own]
      exact same.resolve_right own
  refine ⟨alike.placed.modifyFor hp, alike.placed'.modifyFor hp, ?_, ?_, ?_⟩
  · rw [Criteria.required_modifyFor, Criteria.required_modifyFor, alike.required]
  · exact fun q hq presented => entry q.name (Or.inl (alike.control q hq presented))
  · intro name
    by_cases own : name = p.name
    · rw [Criteria.contains, Criteria.contains, entry name (Or.inr own)]
    · rw [Criteria.contains, Criteria.contains, Criteria.entry?_modifyFor_of_ne own,
        Criteria.entry?_modifyFor_of_ne own]
      exact alike.contains name

end

theorem remove (alike : IsAlike dt c c') (name : String) :
    IsAlike dt (c.remove name) (c'.remove name) := by
  have own := (alike.placed.entry?_remove_self name).trans
    (alike.placed'.entry?_remove_self name).symm
  refine ⟨alike.placed.remove name, alike.placed'.remove name, ?_, ?_, ?_⟩
  · rw [Criteria.required_remove, Criteria.required_remove, alike.required]
  · intro q hq presented
    by_cases same : q.name = name
    · rw [same, own]
    · rw [Criteria.entry?_remove_of_ne same, Criteria.entry?_remove_of_ne same]
      exact alike.control q hq presented
  · intro other
    by_cases same : other = name
    · rw [same, Criteria.contains, Criteria.contains, own]
    · rw [Criteria.contains, Criteria.contains, Criteria.entry?_remove_of_ne same,
        Criteria.entry?_remove_of_ne same]
      exact alike.contains other

end IsAlike

/-! ### What the stages do to the query -/

namespace Acceptance

theorem search_remove (placed : c.IsPlaced dt) (hp : p ∈ dt.definition.allParameters)
    (control : p.scope = .control) : (c.remove p.name).search = c.search := by
  rw [placed.remove_control hp control]

section

variable (h : catalogue.IsFor dt apiHost)
include h

theorem control_of_defaultValue? {value : String} (found : catalogue.parameter? name = some p)
    (default : catalogue.defaultValue? name = some value) :
    p ∈ dt.definition.allParameters ∧ p.scope = .control := by
  obtain ⟨hp, rfl⟩ := h.mem_of_parameter? found
  refine ⟨hp, ?_⟩
  unfold Catalogue.defaultValue? at default
  split at default
  · rename_i same
    rw [h.eq_of_name hp dt.offset_mem same]
    rfl
  · split at default
    · rename_i same
      rw [h.eq_of_name hp dt.size_mem same]
      rfl
    · split at default
      · rename_i same
        rw [h.eq_of_name hp dt.sort_mem same]
        rfl
      · split at default
        · rename_i same
          rw [h.eq_of_name hp dt.aggregation_mem same]
          rfl
        · cases default

theorem addDefault_cases (name : String) : (∀ c, addDefault catalogue c name = c) ∨
    ∃ p ∈ dt.definition.allParameters, p.scope = .control ∧
      ∃ value, ∀ c, addDefault catalogue c name = c.merge p value := by
  unfold addDefault
  split
  · rename_i p value found default
    obtain ⟨hp, control⟩ := control_of_defaultValue? h found default
    exact Or.inr ⟨p, hp, control, value, fun c => rfl⟩
  · exact Or.inl fun c => rfl

theorem search_addDefaults (c : Criteria) : (addDefaults catalogue c).search = c.search := by
  unfold addDefaults
  generalize absent c = names
  induction names generalizing c with
  | nil => rfl
  | cons name rest ih =>
    rw [List.foldl_cons, ih]
    rcases addDefault_cases h name with idle | ⟨p, hp, control, value, merged⟩
    · rw [idle]
    · rw [merged, Criteria.merge, Criteria.search_modifyFor control]

theorem search_settlePage (placed : c.IsPlaced dt) : (settlePage catalogue c).search = c.search := by
  rcases settlePage_cases h c with ⟨-, same⟩ | ⟨n, same⟩
  · rw [same]
  · rw [same, Criteria.set, Criteria.search_modifyFor rfl]
    exact search_remove placed dt.page_mem rfl

end

end Acceptance

/-! ### The stages of criteria alike -/

namespace IsAlike

open Acceptance

variable (alike : IsAlike dt c c')
include alike

theorem absent : absent c = absent c' := by
  unfold Acceptance.absent
  rw [alike.required]
  exact List.filter_congr fun name _ => by rw [alike.contains]

theorem facets : checkFacets catalogue c = checkFacets catalogue c' :=
  checkFacets_congr (alike.control _ dt.aggregation_mem rfl)

theorem bounds : checkBounds limits c = checkBounds limits c' := checkBounds_congr alike.control

theorem settleEntries (rules : Rules) :
    IsAlike dt (settleEntries rules c) (Acceptance.settleEntries rules c') := by
  refine ⟨alike.placed.map (settleEntry_parameter rules), alike.placed'.map (settleEntry_parameter rules),
    alike.required, ?_, ?_⟩
  · intro p hp control
    rw [entry?_settleEntries, entry?_settleEntries, alike.control p hp control]
  · intro name
    rw [Criteria.contains, Criteria.contains, entry?_settleEntries, entry?_settleEntries,
      Option.isSome_map, Option.isSome_map]
    exact alike.contains name

section

variable (h : catalogue.IsFor dt apiHost)
include h

theorem addDefaults : IsAlike dt (addDefaults catalogue c) (addDefaults catalogue c') := by
  unfold Acceptance.addDefaults
  rw [alike.absent]
  generalize Acceptance.absent c' = names
  induction names generalizing c c' with
  | nil => exact alike
  | cons name rest ih =>
    rw [List.foldl_cons, List.foldl_cons]
    apply ih
    rcases addDefault_cases h name with idle | ⟨p, hp, control, value, merged⟩
    · rw [idle, idle]
      exact alike
    · rw [merged, merged]
      exact alike.modifyFor hp control

theorem settleSort : Matched (fun s s' => IsAlike dt s s' ∧ s.search = c.search ∧ s'.search = c'.search)
    (settleSort catalogue c) (settleSort catalogue c') := by
  have order : c.get? Control.order = c'.get? Control.order := alike.get? dt.order_mem rfl
  have rest := alike.remove Control.order
  have sort : (c.remove Control.order).sort? = (c'.remove Control.order).sort? :=
    rest.get? dt.sort_mem rfl
  have kept := search_remove alike.placed dt.order_mem rfl
  have kept' := search_remove alike.placed' dt.order_mem rfl
  unfold Acceptance.settleSort
  simp only [Criteria.take_eq, order, sort]
  cases (c'.remove Control.order).sort? with
  | none => exact ⟨rest, kept, kept'⟩
  | some expression =>
    simp only
    split
    · exact rfl
    · rw [show Control.sort = sortParameter.name from rfl, h.parameter?_name dt.sort_mem]
      simp only [Criteria.set, Criteria.search_modifyFor (p := sortParameter) rfl]
      exact ⟨rest.modifyFor dt.sort_mem rfl, kept, kept'⟩

theorem settlePage : IsAlike dt (settlePage catalogue c) (settlePage catalogue c') := by
  have page : c.page? = c'.page? := alike.number? dt.page_mem rfl
  have size : c.size = c'.size := congrArg (Option.getD · 0) (alike.number? dt.size_mem rfl)
  unfold Acceptance.settlePage
  rw [page, size]
  split
  · exact alike
  · rw [show Control.offset = offsetParameter.name from rfl, h.parameter?_name dt.offset_mem]
    exact (alike.remove Control.page).modifyFor dt.offset_mem rfl

theorem settle : IsAlike dt (settle catalogue c) (settle catalogue c') :=
  (alike.settlePage h).settleEntries catalogue.rules

end

end IsAlike

namespace Acceptance

theorem checkValues_matched
    (sound : (∀ e ∈ c.entries, issue? catalogue e = none) ↔ ∀ e ∈ c'.entries, issue? catalogue e = none) :
    Matched (fun _ _ => True) (checkValues catalogue c) (checkValues catalogue c') := by
  rw [← checkValues_eq_ok_iff, ← checkValues_eq_ok_iff] at sound
  have refused : ∀ c, checkValues catalogue c ≠ .ok () →
      ∃ issues, checkValues catalogue c = .error (.invalidValues issues) := by
    intro c wrong
    unfold checkValues at wrong ⊢
    split
    · rename_i none_
      rw [none_] at wrong
      exact absurd rfl wrong
    · exact ⟨_, rfl⟩
  by_cases fine : checkValues catalogue c = .ok ()
  · rw [fine, sound.mp fine]
    trivial
  · obtain ⟨issues, wrong⟩ := refused c fine
    obtain ⟨issues', wrong'⟩ := refused c' fun fine' => fine (sound.mpr fine')
    rw [wrong, wrong']
    rfl

section

variable (h : catalogue.IsFor dt apiHost)
include h

/-- The values of the presentation, and which parameters have values at all, make criteria alike. -/
theorem isAlike_gather (extra : List String)
    (control : ∀ p ∈ dt.definition.allParameters, p.scope = .control →
      given catalogue p pairs = given catalogue p pairs')
    (present : ∀ p ∈ dt.definition.allParameters,
      given catalogue p pairs = [] ↔ given catalogue p pairs' = []) :
    IsAlike dt (gather catalogue extra pairs).criteria (gather catalogue extra pairs').criteria := by
  have first := isCollected_gather h extra pairs
  have second := isCollected_gather h extra pairs'
  refine ⟨first.placed, second.placed, first.required.trans second.required.symm, ?_,
    first.placed.forall_entry? (f := Option.isSome) second.placed ?_⟩
  · intro p hp presented
    rw [entry?_gather h extra pairs hp, entry?_gather h extra pairs' hp, control p hp presented]
  · intro p hp
    rw [entry?_gather h extra pairs hp, entry?_gather h extra pairs' hp]
    by_cases none_ : given catalogue p pairs = []
    · rw [if_pos none_, if_pos ((present p hp).mp none_)]
    · rw [if_neg none_, if_neg fun none_' => none_ ((present p hp).mpr none_')]
      rfl

theorem entry?_settle {gathered sorted : Criteria} (placed : sorted.IsPlaced dt)
    (final : (settle catalogue sorted).IsPlaced dt) (begun : gathered.IsPlaced dt)
    (kept : sorted.search = gathered.search) (hp : p ∈ dt.definition.allParameters)
    (query : p.scope ≠ .control) : Criteria.entry? (settle catalogue sorted) p.name =
      (gathered.entry? p.name).map (settleEntry catalogue.rules) := by
  have searched : (settle catalogue sorted).search = gathered.search.map (settleEntry catalogue.rules) := by
    rw [settle_eq, settleEntries, search_settlePage h placed, kept]
  rw [final.entry?_search hp query, begun.entry?_search hp query, searched]
  exact Entry.named?_map fun e => congrArg Parameter.name (settleEntry_parameter catalogue.rules e)

/-- Requests whose gathered criteria are alike, and of which nothing is wrong with the query of one if
nothing is wrong with that of the other, are refused for one kind of offence or accepted alike. -/
theorem accept_matched
    (alike : IsAlike dt (gather catalogue extra pairs).criteria (gather catalogue extra pairs').criteria)
    (unknown : (gather catalogue extra pairs).unknown = [] ↔
      (gather catalogue extra pairs').unknown = [])
    (sound : (∀ e ∈ (gather catalogue extra pairs).criteria.search, issue? catalogue e = none) ↔
      ∀ e ∈ (gather catalogue extra pairs').criteria.search, issue? catalogue e = none) :
    Matched (fun c c' => IsAlike dt c c' ∧ ∀ p ∈ dt.definition.allParameters, p.scope ≠ .control →
        c.entry? p.name = ((gather catalogue extra pairs).criteria.entry? p.name).map
          (settleEntry catalogue.rules) ∧
        c'.entry? p.name = ((gather catalogue extra pairs').criteria.entry? p.name).map
          (settleEntry catalogue.rules))
      (catalogue.accept extra limits pairs) (catalogue.accept extra limits pairs') := by
  have collected := alike.addDefaults h
  have query := search_addDefaults h (gather catalogue extra pairs).criteria
  have query' := search_addDefaults h (gather catalogue extra pairs').criteria
  unfold Catalogue.accept
  simp only []
  rw [← List.isEmpty_iff, ← List.isEmpty_iff, ← Bool.eq_iff_iff] at unknown
  rw [collected.absent, unknown]
  generalize addDefaults catalogue (gather catalogue extra pairs).criteria = c at collected query ⊢
  generalize addDefaults catalogue (gather catalogue extra pairs').criteria = c' at collected query' ⊢
  have values : (∀ e ∈ c.entries, issue? catalogue e = none) ↔
      ∀ e ∈ c'.entries, issue? catalogue e = none := by
    have presented : (∀ e ∈ c.control, issue? catalogue e = none) ↔
        ∀ e ∈ c'.control, issue? catalogue e = none := by
      rw [collected.placed.forall_control, collected.placed'.forall_control]
      exact forall₃_congr fun p hp control => by rw [collected.control p hp control]
    rw [Criteria.entries, Criteria.entries, List.forall_mem_append, List.forall_mem_append, query,
      query', sound, presented]
  split
  · split
    · refine (checkValues_matched values).bind fun _ _ _ => ?_
      refine (collected.settleSort h).bind ?_
      rintro s s' ⟨sorted, kept, kept'⟩
      refine (Matched.of_eq sorted.facets).bind fun _ _ _ => ?_
      have settled := sorted.settle h
      refine (Matched.of_eq settled.bounds).bind fun _ _ _ => ⟨settled, fun p hp scope => ⟨?_, ?_⟩⟩
      · exact entry?_settle h sorted.placed settled.placed alike.placed (kept.trans query) hp scope
      · exact entry?_settle h sorted.placed' settled.placed' alike.placed' (kept'.trans query') hp scope
    · exact rfl
  · exact rfl

end

end Acceptance

end FacetSearch
