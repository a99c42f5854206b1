import FacetSearch.Proofs.Acceptance.Stored
import FacetSearch.Proofs.Catalogue.Build
import FacetSearch.Proofs.Query.Reading

/-!
# The order of results

The sort expression of a request is read, written out in full and read again, and comes to the same
directives each time. Each of them becomes one entry of the query for each of its fields.
-/

namespace FacetSearch

open Acceptance
open Control (orderParameter sortParameter)

/-! ### Directives in a query -/

def Directive.entry (d : Directive) (field : String) : Json :=
  .obj [(field, .obj (("order", .str d.direction.word) ::
    if field = "_score" then [] else [("missing", .str "_last")]))]

namespace SortStep

theorem toJson_ofField (d : Directive) (field : String) :
    (ofField d.direction field).toJson = d.entry field := by
  rw [toJson, Clause.single, ofField, Directive.entry, SortKey.scoreField]
  by_cases score : field = "_score"
  · simp only [score, bne_self_eq_false, Bool.false_eq_true, if_false, if_true]
  · simp only [bne_iff_ne.mpr score, if_true, if_neg score]

/-- Each field of each directive has its entry, and the identifier comes last unless it is one of
them. -/
theorem map_toJson_ofDirectives (ds : List Directive) (identifier : String) :
    (ofDirectives ds identifier).map toJson =
      (ds.flatMap fun d => d.key.fields.map d.entry) ++
        if ∃ d ∈ ds, identifier ∈ d.key.fields then []
        else [.obj [(identifier, .obj [("order", .str "asc")])]] := by
  have steps : (ds.flatMap fun d => d.key.fields.map (ofField d.direction)).map toJson =
      ds.flatMap fun d => d.key.fields.map d.entry := by
    rw [List.map_flatMap]
    simp only [List.map_map, Function.comp_def, toJson_ofField]
  have among : (ds.any fun d => d.key.fields.contains identifier) = true ↔
      ∃ d ∈ ds, identifier ∈ d.key.fields := by
    simp only [List.any_eq_true, List.contains_iff_mem]
  unfold ofDirectives
  by_cases known : ∃ d ∈ ds, identifier ∈ d.key.fields
  · simp only [among.mpr known, if_true, if_pos known, steps, List.append_nil]
  · simp only [Bool.eq_false_iff.mpr (mt among.mp known), Bool.false_eq_true, if_false, if_neg known,
      List.map_append, steps]
    rfl

end SortStep

namespace Acceptance

variable {dt : DocumentType} {apiHost : String} {catalogue : Catalogue} {c : Criteria}
  {extra : List String} {limits : Limits} {pairs : List (String × String)}

/-! ### The order asked for -/

def askedSort (catalogue : Catalogue) (pairs : List (String × String)) : String :=
  if given catalogue sortParameter pairs ≠ [] then
    Text.join "," (given catalogue sortParameter pairs)
  else catalogue.definition.defaultSort

def askedDirection? (catalogue : Catalogue) (pairs : List (String × String)) : Option Direction :=
  (given catalogue orderParameter pairs).head?.bind Direction.parse?

section

variable (h : catalogue.IsFor dt apiHost)
include h

theorem sort?_stored (extra : List String) (pairs : List (String × String)) :
    (stored catalogue extra pairs).sort? = some (askedSort catalogue pairs) := by
  have required : Control.sort ∈ requiredNames catalogue extra := by
    rw [mem_requiredNames, h.definition]
    exact Or.inl (by cases dt <;> decide)
  have stands : (stored catalogue extra pairs).sort? = _ := get?_stored h dt.sort_mem
  rw [stands, askedSort]
  split
  · rfl
  · exact if_pos required

theorem direction?_stored
    (sound : ∀ e ∈ (stored catalogue extra pairs).entries, issue? catalogue e = none) :
    direction? (stored catalogue extra pairs) = askedDirection? catalogue pairs := by
  have stands : Criteria.get? (stored catalogue extra pairs) Control.order = _ :=
    get?_stored h dt.order_mem
  rw [direction?, stands, askedDirection?]
  by_cases none_ : given catalogue orderParameter pairs = []
  · have default : catalogue.defaultValue? orderParameter.name = none := by
      rw [Catalogue.defaultValue?, if_neg (by decide), if_neg (by decide), if_neg (by decide),
        if_neg (by decide)]
    rw [if_neg (not_not_intro none_), default, ite_self, none_, List.head?_nil, Option.bind_none,
      Option.bind_none]
  · have member : givenEntry catalogue pairs orderParameter ∈ (stored catalogue extra pairs).entries :=
      (mem_stored h dt.order_mem rfl).mpr (Or.inl ⟨none_, rfl⟩)
    have few := length_given_le_one rfl (by decide) (sound _ member)
    obtain ⟨value, only⟩ := List.length_eq_one_iff.mp
      (Nat.le_antisymm few (List.length_pos_of_ne_nil none_))
    have trimmed : Text.trim value = value := trimmed_of_mem_given rfl (only ▸ List.mem_singleton_self value)
    rw [if_pos none_, only, Text.join_singleton, List.head?_cons, Option.bind_some, Option.bind_some,
      trimmed]

/-- An accepted order is the one asked for, written out in full. -/
theorem order_of_accept (accepted : catalogue.accept extra limits pairs = .ok c) :
    ∃ ds, ds ≠ [] ∧ catalogue.sorts.parse (askedSort catalogue pairs)
        (askedDirection? catalogue pairs) = .ok ds ∧ c.sort? = some (Directive.expression ds) := by
  obtain ⟨collected, sorted, defaults, -, -, values, sorting, -, -, rfl⟩ :=
    accept_eq_ok_iff.mp accepted
  rw [addDefaults_gather h] at defaults
  subst defaults
  have sound := checkValues_eq_ok_iff.mp values
  have ready : IsSound dt catalogue (requiredNames catalogue extra) (stored catalogue extra pairs) :=
    ⟨isCollected_stored h extra pairs, sound⟩
  have asked : ((stored catalogue extra pairs).remove Control.order).sort? =
      some (askedSort catalogue pairs) :=
    (Criteria.get?_congr (Criteria.entry?_remove_of_ne (by decide))).trans (sort?_stored h extra pairs)
  have final : Criteria.sort? (settle catalogue sorted) = sorted.sort? :=
    Criteria.get?_congr (entry?_settle_of_ne h (isOrdered_settleSort h ready sorting).1 dt.sort_mem rfl
      (by decide) (by decide))
  rcases settleSort_ok h sorting with ⟨none_, -⟩ | ⟨x, ds, found, read, rfl⟩
  · rw [asked] at none_
    cases none_
  · obtain rfl := Option.some.inj (asked.symm.trans found)
    have filled := directives_ne_nil h (ready.remove Control.order) found read
    rw [direction?_stored h sound] at read
    refine ⟨ds, filled, read, final.trans ?_⟩
    exact (ready.placed.remove Control.order).get?_set_self dt.sort_mem

end

end Acceptance

namespace Catalogue

variable {catalogue : Catalogue} {c : Criteria} {ds : List Directive}

theorem directives_of_parse {x : String} (written : c.sort? = some x)
    (read : catalogue.sorts.parse x none = .ok ds) : catalogue.directives c = ds := by
  rw [directives, written, Option.bind_some, read]
  rfl

/-- The order asked for is read token by token. It is stored written out in full, is read as the same
directives from there, and these are what the engine sorts by if no record is promoted. -/
theorem order_kept {settings : Settings} {dt : DocumentType} {extra : List String} {limits : Limits}
    {pairs : List (String × String)}
    (built : Service.buildCatalogue settings dt = .ok catalogue)
    (accepted : catalogue.accept extra limits pairs = .ok c) :
    ∃ ds, ds ≠ [] ∧
      catalogue.sorts.parse (askedSort catalogue pairs) (askedDirection? catalogue pairs) = .ok ds ∧
      List.Forall₂ (catalogue.sorts.ReadsAs (askedDirection? catalogue pairs))
        (SortTable.tokens (askedSort catalogue pairs)) ds ∧
      c.sort? = some (Directive.expression ds) ∧
      (∀ fallback, catalogue.sorts.parse (Directive.expression ds) fallback = .ok ds) ∧
      catalogue.directives c = ds ∧
      ∀ promoted, (catalogue.compile c promoted).promotions = [] →
        (catalogue.compile c promoted).body.get? "sort" = some (.arr
          ((ds.flatMap fun d => d.key.fields.map d.entry) ++
            if ∃ d ∈ ds, catalogue.definition.identifierField ∈ d.key.fields then []
            else [.obj [(catalogue.definition.identifierField, .obj [("order", .str "asc")])]])) := by
  have h := Service.isFor_of_buildCatalogue built
  obtain ⟨ds, filled, read, written⟩ := order_of_accept h accepted
  have again := Directive.parse_expression h filled (h.key_of_parse read)
  have directives := directives_of_parse written (again none)
  refine ⟨ds, filled, read, SortTable.parse_eq_ok_iff_forall₂.mp read, written, again, directives,
    fun promoted idle => ?_⟩
  rw [Query.get?_body_sort, sort_compile, idle, List.isEmpty_nil, if_pos rfl, directives,
    SortStep.map_toJson_ofDirectives]

/-- Tickets by the date they were made on, as the request says for all tokens, and by their state, with
a direction of its own. -/
theorem order_kept_tickets :
    ∃ catalogue c, Service.buildCatalogue Settings.forTesting .ticket = .ok catalogue ∧
      catalogue.accept [] {} [("sortBy", " Created-Date ,status : DESC"), ("order", "Asc")] = .ok c ∧
      c.sort? = some "createdDate:asc,status:desc" ∧
      (catalogue.compile c []).body.get? "sort" = some (.arr
        [.obj [("createdDate", .obj [("order", .str "asc"), ("missing", .str "_last")])],
          .obj [("status.keyword", .obj [("order", .str "desc"), ("missing", .str "_last")])],
          .obj [("identifier.keyword", .obj [("order", .str "asc")])]]) := by
  generalize named :
    [("sortBy", " Created-Date ,status : DESC"), ("order", "Asc")] = pairs
  let created : Directive :=
    ⟨⟨"createdDate", "createddate|created", ["createdDate"], .descending⟩, .ascending⟩
  let state : Directive := ⟨⟨"status", "status", ["status.keyword"], .ascending⟩, .descending⟩
  have evaluated : passes (Service.buildCatalogue Settings.forTesting .ticket) (fun catalogue =>
      decide (catalogue.definition.identifierField = "identifier.keyword") &&
        passes (catalogue.sorts.parse (askedSort catalogue pairs) (askedDirection? catalogue pairs))
          (fun ds => decide (ds = [created, state])) &&
        passes (catalogue.accept [] {} pairs)
          fun c => (catalogue.compile c []).promotions.isEmpty) = true := by
    rw [Service.buildCatalogue_eq, ← named]
    decide +kernel
  obtain ⟨catalogue, built, outcome⟩ := exists_of_passes evaluated
  obtain ⟨outcome, request⟩ := Bool.and_eq_true_iff.mp outcome
  obtain ⟨identifier, asked⟩ := Bool.and_eq_true_iff.mp outcome
  obtain ⟨c, accepted, idle⟩ := exists_of_passes request
  obtain ⟨ds, -, read, -, written, -, -, sorted⟩ := order_kept built accepted
  rw [read] at asked
  obtain rfl : ds = [created, state] := of_decide_eq_true asked
  have sorted := sorted [] (List.isEmpty_iff.mp idle)
  rw [of_decide_eq_true identifier] at sorted
  refine ⟨catalogue, c, built, accepted, written.trans (by decide), sorted.trans ?_⟩
  rfl

end Catalogue

end FacetSearch
