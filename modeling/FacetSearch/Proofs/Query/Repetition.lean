import FacetSearch.Proofs.Acceptance.Repetition
import FacetSearch.Proofs.Query.Clauses
import FacetSearch.Proofs.Query.Hits

/-!
# What repeated values find

A set of values asks for the same however often a value is in it. Whether a field is present is told
from the joined text instead of its values, and repeating `false` turns the condition around.
-/

namespace FacetSearch

open Acceptance
open Clause (Expresses)

variable {dt : DocumentType} {catalogue : Catalogue} {c again : Criteria} {p : Parameter}
  {extra : List String} {limits : Limits} {pairs : List (String × String)} {pair : String × String}
  {value more : String} {Object : Type} {i : Interpretation Object} {d : Object}

/-! ### Clauses of sets -/

namespace Parameter

theorem admits_iff {clause : Option Clause} {asked P : Prop} (h : Expresses i d clause asked P) :
    (∀ c, clause = some c → c.holds i d = true) ↔ (asked → P) := by
  constructor
  · intro admits given
    obtain ⟨c, built⟩ := Option.isSome_iff_exists.mp (h.1.mpr given)
    exact (h.2 c built).mp (admits c built)
  · intro meaning c built
    exact (h.2 c built).mpr (meaning (h.1.mp (by simp [built])))

theorem combined_congr {operator : Operator} {values others : List α} {P : α → Prop}
    (same : ∀ v, v ∈ values ↔ v ∈ others) : operator.Combined values P ↔ operator.Combined others P :=
  Operator.combined_congr (by simp only [same]) (by simp only [same])

/-- The clause of a set depends on which values are in the set. -/
theorem admits_congr (fields : p.fields ≠ []) (takes : p.operator.takesSet = true)
    (structured : ∀ weighted, p.shape ≠ some (.freeText weighted))
    (same : ∀ x, x ∈ p.elements more ↔ x ∈ p.elements value) :
    (∀ clause, p.clause? more c = some clause → clause.holds i d = true) ↔
      ∀ clause, p.clause? value c = some clause → clause.holds i d = true := by
  have sought : ∀ x, x ∈ p.sought more ↔ x ∈ p.sought value := by
    intro x
    rw [Parameter.sought, Parameter.sought, List.mem_filter, List.mem_filter, same]
  have asked : p.sought more ≠ [] ↔ p.sought value ≠ [] := by
    simp only [ne_eq, List.eq_nil_iff_forall_not_mem, sought]
  cases shape : p.shape with
  | none =>
    cases compared : p.kind.isCompared with
    | false =>
      rw [clause?_eq_none_of_kind fields shape takes compared,
        clause?_eq_none_of_kind fields shape takes compared]
    | true =>
      rw [admits_iff (expresses_compared fields shape takes compared),
        admits_iff (expresses_compared fields shape takes compared), asked, combined_congr sought]
  | some shaped =>
    cases shaped with
    | freeText weighted => exact absurd shape (structured weighted)
    | pair =>
      have paired : ∀ x, x ∈ (p.sought more).filter (fun v => (Text.splitOnce ':' v).isSome) ↔
          x ∈ (p.sought value).filter fun v => (Text.splitOnce ':' v).isSome := by
        intro x
        rw [List.mem_filter, List.mem_filter, sought]
      rw [admits_iff (expresses_pair fields shape), admits_iff (expresses_pair fields shape),
        combined_congr paired]
      simp only [sought]
    | typed typeField typeValue =>
      rw [admits_iff (expresses_typed fields shape), admits_iff (expresses_typed fields shape), asked,
        combined_congr sought]
    | membership exactField ancestorField toggle =>
      rw [admits_iff (expresses_membership shape), admits_iff (expresses_membership shape), asked,
        combined_congr sought]

theorem mem_of_two_elements (several : 2 ≤ (p.elements value).length) :
    p.operator.delimiter ∈ value.toList := by
  by_contra absent
  rw [elements, Text.split_of_not_mem absent, List.map_singleton, List.length_singleton] at several
  omega

end Parameter

/-! ### What is matched -/

theorem Text.not_sameWord_of_comma {word : String} (comma : ',' ∈ value.toList)
    (plain : ',' ∉ (Text.lower word).toList) : Text.sameWord (Text.trim value) word = false := by
  rw [Bool.eq_false_iff]
  intro same
  rw [sameWord_iff] at same
  rw [← same, Text.lower, String.toList_ofList] at plain
  exact plain (List.mem_map.mpr ⟨',', Text.mem_trim_of_not_isBlank comma (by decide), by decide⟩)

theorem DocumentType.toggle_of_mem (hp : p ∈ dt.definition.allParameters) {toggle : String}
    (switch : p.toggle? = some toggle) :
    ∃ q ∈ dt.definition.allParameters, q.name = toggle ∧ q.operator = .silent := by
  have all : ∀ p ∈ dt.definition.allParameters, ∀ toggle ∈ p.toggle?,
      ∃ q ∈ dt.definition.allParameters, q.name = toggle ∧ q.operator = .silent := by
    cases dt with
    | publication => decide
    | ticket => decide
    | importCandidate => decide
  exact all p hp toggle switch

/-- A parameter that takes repeated values compares fields, and is no free text if it has no shape of
its own. -/
theorem DocumentType.form_of_repeats (hp : p ∈ dt.definition.allParameters) (search : p.scope = .search)
    (repeats : p.operator.takesSet = true ∨ p.operator = .presence) :
    p.operator ≠ .silent ∧ p.fields ≠ [] ∧
      (p.operator = .presence → (∀ weighted, p.shape ≠ some (.freeText weighted)) → p.shape = none) := by
  have active : p.operator ≠ .silent := by
    intro silent
    simp [silent, Operator.takesSet] at repeats
  have query : p.scope ≠ .control := by
    rw [search]
    decide
  have form := DocumentType.isAnswerable_of_mem hp query
  split at form
  · exact absurd form.2 active
  · rw [Parameter.isAnswerable, Bool.and_eq_true, bne_iff_ne] at form
    refine ⟨active, form.1, fun presence structured => ?_⟩
    have shaped := form.2
    split at shaped
    · assumption
    · rename_i weighted free
      exact absurd free (structured weighted)
    · simp [presence, Operator.takesSet] at shaped
    · simp [presence, Operator.takesSet] at shaped

section

variable (active : p.operator ≠ .silent) (search : p.scope = .search)
  (others : ∀ q ∈ dt.definition.allParameters, q ≠ p → again.entry? q.name = c.entry? q.name)
include active search others

/-- No clause depends on the values of a parameter that is neither a switch nor of the presentation. -/
theorem Parameter.clause?_of_others {q : Parameter} (hq : q ∈ dt.definition.allParameters)
    (value : String) : q.clause? value again = q.clause? value c := by
  apply Parameter.clause?_congr
  · have known : ∃ f ∈ Control.parameters, f.name = Control.fields ∧ f.scope = .control := by decide
    obtain ⟨f, hf, name, control⟩ := known
    have same := others f (dt.mem_of_control hf) fun own => by
      rw [own, search] at control
      cases control
    rw [name] at same
    rw [Criteria.searchedFields, Criteria.searchedFields, Criteria.listed, Criteria.listed,
      Criteria.values, Criteria.values, same]
  · intro toggle switch
    obtain ⟨t, ht, rfl, silent⟩ := DocumentType.toggle_of_mem hq switch
    have same := others t ht fun own => active (own ▸ silent)
    rw [Criteria.flag, Criteria.flag, Criteria.get?_congr same]

theorem forall_admits_iff (placed : c.IsPlaced dt) (placed' : again.IsPlaced dt)
    (hp : p ∈ dt.definition.allParameters) (entry : c.entry? p.name = some ⟨p, value⟩)
    (entry' : again.entry? p.name = some ⟨p, more⟩)
    (own : (Entry.mk p more).Admits i again d ↔ (Entry.mk p value).Admits i c d)
    (R : Parameter → Prop) :
    (∀ e ∈ again.search, R e.parameter → e.Admits i again d) ↔
      ∀ e ∈ c.search, R e.parameter → e.Admits i c d := by
  rw [placed.forall_search, placed'.forall_search]
  refine forall₃_congr fun q hq query => ?_
  by_cases same : q = p
  · subst same
    rw [entry, entry']
    simp only [Option.some.injEq, forall_eq']
    exact imp_congr_right fun _ => own
  · rw [others q hq same]
    refine forall₂_congr fun e found => imp_congr_right fun _ => ?_
    obtain ⟨-, rfl⟩ := placed.parameter_of_entry? hq found
    rw [Entry.Admits, Entry.Admits, Entry.clause?, Entry.clause?,
      Parameter.clause?_of_others active search others hq]

end

def Criteria.asksForAbsence (c : Criteria) (p : Parameter) : Bool :=
  p.operator == .presence && (c.get? p.name).any fun value => Text.sameWord (Text.trim value) "false"

theorem Entry.admits_presence (fields : p.fields ≠ []) (shape : p.shape = none)
    (presence : p.operator = .presence) : (Entry.mk p value).Admits i c d ↔
      if Text.sameWord (Text.trim value) "false" = true then
        ¬∃ o ∈ p.places i d, ∃ f ∈ p.fields, i.present f o = true
      else ∃ o ∈ p.places i d, ∃ f ∈ p.fields, i.present f o = true := by
  have plain : p.plainClause? value = p.presenceClause? value := by
    rw [Parameter.plainClause?, presence]
  have expressed : Expresses i d (p.clause? value c) True _ :=
    Parameter.expresses_of_plain shape (plain ▸ Parameter.expresses_presenceClause? fields)
  exact (Parameter.admits_iff expressed).trans true_imp_iff

/-- Queries that match the same documents and keep the same of them after the counting. -/
def Query.FindsAlike (q q' : Query) : Prop :=
  ∀ {Object : Type} (i : Interpretation Object) (d : Object), q.isMatch i d = q'.isMatch i d ∧
    (q.refinements.all fun (_, clause) => clause.holds i d) =
      q'.refinements.all fun (_, clause) => clause.holds i d

namespace Catalogue

variable {settings : Settings}

theorem findsAlike_compile (agree : ∀ {Object : Type} (i : Interpretation Object) (d : Object)
      (R : Parameter → Prop), (∀ e ∈ again.search, R e.parameter → e.Admits i again d) ↔
        ∀ e ∈ c.search, R e.parameter → e.Admits i c d) (promoted : List String) (access : Access) :
    ((catalogue.compile again promoted).under access).FindsAlike
      ((catalogue.compile c promoted).under access) := by
  intro Object i d
  have unrefined := agree i d fun q => catalogue.refined? ⟨q, ""⟩ = none
  have refined := agree i d fun q => ∃ name, catalogue.refined? ⟨q, ""⟩ = some name
  constructor
  · rw [Bool.eq_iff_iff, isMatch_compile, isMatch_compile]
    exact and_congr_right fun _ => unrefined
  · rw [Bool.eq_iff_iff, all_refinements, all_refinements]
    simp only [forall_exists_index] at refined
    exact refined

/-- A request that repeats one of its values is accepted and finds the same documents, unless the value
asks for documents without a field: repeated, it asks for documents with one. -/
theorem accept_repeated (built : Service.buildCatalogue settings dt = .ok catalogue)
    (accepted : catalogue.accept extra limits pairs = .ok c) (member : pair ∈ pairs)
    (filled : Text.trim pair.2 ≠ "") (resolved : catalogue.resolve pair.1 = p)
    (search : p.scope = .search) (repeats : p.operator.takesSet = true ∨ p.operator = .presence)
    (structured : ∀ weighted, p.shape ≠ some (.freeText weighted)) :
    ∃ again, catalogue.accept extra limits (pairs ++ [pair]) = .ok again ∧
      (c.asksForAbsence p = false → ∀ (promoted : List String) (access : Access),
        ((catalogue.compile again promoted).under access).FindsAlike
          ((catalogue.compile c promoted).under access)) ∧
      (c.asksForAbsence p = true → ∃ e ∈ c.search, ∃ e' ∈ again.search,
        e.parameter = p ∧ e'.parameter = p ∧
          ∀ {Object : Type} (i : Interpretation Object) (d : Object),
            e'.Admits i again d ↔ ¬e.Admits i c d) := by
  have h := Service.isFor_of_buildCatalogue built
  obtain ⟨again, value, more, accepted', placed', others, entry, entry', same, several⟩ :=
    exists_repeated h resolved search repeats member filled accepted
  obtain ⟨placed, -⟩ := shape_of_accept h accepted
  have listed := listed_of_search h resolved search
  obtain ⟨active, fields, plain⟩ := DocumentType.form_of_repeats listed search repeats
  have stands : c.get? p.name = some value := by rw [Criteria.get?, entry, Option.map_some]
  -- The joined text of several values is never the word alone.
  have positive : Text.sameWord (Text.trim more) "false" = false := by
    have comma := Parameter.mem_of_two_elements several
    rw [(isMany_of_repeats repeats).2.2] at comma
    exact Text.not_sameWord_of_comma comma (by decide)
  refine ⟨again, accepted', fun kept => findsAlike_compile fun i d => ?_, fun turned => ?_⟩
  · refine forall_admits_iff active search others placed placed' listed entry entry' ?_
    rw [Entry.Admits, Entry.Admits, Entry.clause?, Entry.clause?,
      Parameter.clause?_of_others active search others listed]
    rcases repeats with takes | presence
    · exact Parameter.admits_congr fields takes structured same
    · have shape := plain presence structured
      have asks : Text.sameWord (Text.trim value) "false" = false := by
        simpa [Criteria.asksForAbsence, presence, stands] using kept
      have before : (Entry.mk p value).Admits i c d ↔ _ := Entry.admits_presence fields shape presence
      have after : (Entry.mk p more).Admits i c d ↔ _ := Entry.admits_presence fields shape presence
      rw [positive] at after
      rw [asks] at before
      exact after.trans before.symm
  · obtain ⟨presence, asks⟩ : p.operator = .presence ∧
        Text.sameWord (Text.trim value) "false" = true := by
      simpa [Criteria.asksForAbsence, stands] using turned
    have query : p.scope ≠ .control := by
      rw [search]
      decide
    have shape := plain presence structured
    rw [placed.entry?_search listed query] at entry
    rw [placed'.entry?_search listed query] at entry'
    refine ⟨_, (Entry.named?_eq_some entry).1, _, (Entry.named?_eq_some entry').1, rfl, rfl,
      fun i d => ?_⟩
    rw [Entry.admits_presence fields shape presence, Entry.admits_presence fields shape presence,
      if_pos asks, positive, if_neg Bool.false_ne_true, Classical.not_not]

end Catalogue

/-! ### Tickets without messages -/

theorem exists_quietTickets : ∃ catalogue c again,
    Service.buildCatalogue Settings.forTesting .ticket = .ok catalogue ∧
    catalogue.accept [] {} [("owner", "kari"), ("hasMessages", "false")] = .ok c ∧
    catalogue.accept [] {} ([("owner", "kari"), ("hasMessages", "false")] ++ [("hasMessages", "false")]) =
      .ok again ∧
    ((catalogue.resolve "owner").scope = .search ∧ (catalogue.resolve "owner").operator = .anyOf ∧
      (catalogue.resolve "owner").shape = none) ∧
    ((catalogue.resolve "hasMessages").scope = .search ∧
      (catalogue.resolve "hasMessages").operator = .presence ∧
      (catalogue.resolve "hasMessages").shape = none) ∧
    c.asksForAbsence (catalogue.resolve "hasMessages") = true ∧
    ((catalogue.compile c []).under (.granted ⟨[]⟩)).isMatch Interpretation.ofFields
      [("owner.username.keyword", "kari")] = true ∧
    ((catalogue.compile again []).under (.granted ⟨[]⟩)).isMatch Interpretation.ofFields
      [("owner.username.keyword", "kari")] = false := by
  have evaluated : passes (Service.buildCatalogue Settings.forTesting .ticket) (fun catalogue =>
      passes (catalogue.accept [] {} [("owner", "kari"), ("hasMessages", "false")]) fun c =>
        passes (catalogue.accept [] {}
          ([("owner", "kari"), ("hasMessages", "false")] ++ [("hasMessages", "false")])) fun again =>
          decide (((catalogue.resolve "owner").scope = .search ∧
              (catalogue.resolve "owner").operator = .anyOf ∧ (catalogue.resolve "owner").shape = none) ∧
            ((catalogue.resolve "hasMessages").scope = .search ∧
              (catalogue.resolve "hasMessages").operator = .presence ∧
              (catalogue.resolve "hasMessages").shape = none) ∧
            c.asksForAbsence (catalogue.resolve "hasMessages") = true ∧
            ((catalogue.compile c []).under (.granted ⟨[]⟩)).isMatch Interpretation.ofFields
              [("owner.username.keyword", "kari")] = true ∧
            ((catalogue.compile again []).under (.granted ⟨[]⟩)).isMatch Interpretation.ofFields
              [("owner.username.keyword", "kari")] = false)) = true := by
    rw [Service.buildCatalogue_eq]
    decide +kernel
  obtain ⟨catalogue, built, outcome⟩ := exists_of_passes evaluated
  obtain ⟨c, accepted, outcome⟩ := exists_of_passes outcome
  obtain ⟨again, accepted', found⟩ := exists_of_passes outcome
  exact ⟨catalogue, c, again, built, accepted, accepted', of_decide_eq_true found⟩

/-- The owner may be given twice. A second `false` asks for the tickets with messages. -/
theorem accept_repeated_quietTickets : ∃ catalogue c again turned,
    Service.buildCatalogue Settings.forTesting .ticket = .ok catalogue ∧
    catalogue.accept [] {} [("owner", "kari"), ("hasMessages", "false")] = .ok c ∧
    catalogue.accept [] {} [("owner", "kari"), ("hasMessages", "false"), ("owner", "kari")] = .ok again ∧
    ((catalogue.compile again []).under (.granted ⟨[]⟩)).FindsAlike
      ((catalogue.compile c []).under (.granted ⟨[]⟩)) ∧
    catalogue.accept [] {} [("owner", "kari"), ("hasMessages", "false"), ("hasMessages", "false")] =
      .ok turned ∧
    ∃ e ∈ c.search, ∃ e' ∈ turned.search, ∀ d,
      e'.Admits Interpretation.ofFields turned d ↔ ¬e.Admits Interpretation.ofFields c d := by
  obtain ⟨catalogue, c, -, built, accepted, -, ⟨owned, anyOf, plain⟩, ⟨said, presence, simple⟩, asks, -⟩ :=
    exists_quietTickets
  have structured : ∀ {p : Parameter}, p.shape = none → ∀ weighted, p.shape ≠ some (.freeText weighted) := by
    intro p none_ weighted
    rw [none_]
    exact nofun
  have owner : ("owner", "kari") ∈ [("owner", "kari"), ("hasMessages", "false")] := by decide
  have messages : ("hasMessages", "false") ∈ [("owner", "kari"), ("hasMessages", "false")] := by decide
  obtain ⟨again, accepted', kept, -⟩ := Catalogue.accept_repeated built accepted owner (by decide) rfl
    owned (Or.inl (by rw [anyOf]; rfl)) (structured plain)
  obtain ⟨turned, accepted'', -, turns⟩ := Catalogue.accept_repeated built accepted messages (by decide)
    rfl said (Or.inr presence) (structured simple)
  obtain ⟨e, he, e', he', -, -, opposite⟩ := turns asks
  have other : c.asksForAbsence (catalogue.resolve "owner") = false := by
    simp [Criteria.asksForAbsence, anyOf]
  exact ⟨catalogue, c, again, turned, built, accepted, accepted', kept other [] (.granted ⟨[]⟩),
    accepted'', e, he, e', he', fun d => opposite Interpretation.ofFields d⟩

/-- A value that a request gives already, given once more, loses a document that was matched. -/
theorem accept_repeated_turned : ∃ catalogue c again,
    Service.buildCatalogue Settings.forTesting .ticket = .ok catalogue ∧
    catalogue.accept [] {} [("owner", "kari"), ("hasMessages", "false")] = .ok c ∧
    (catalogue.resolve "hasMessages").scope = .search ∧
    (catalogue.resolve "hasMessages").operator = .presence ∧
    catalogue.accept [] {} [("owner", "kari"), ("hasMessages", "false"), ("hasMessages", "false")] =
      .ok again ∧
    ¬((catalogue.compile again []).under (.granted ⟨[]⟩)).FindsAlike
      ((catalogue.compile c []).under (.granted ⟨[]⟩)) := by
  obtain ⟨catalogue, c, again, built, accepted, accepted', -, ⟨said, presence, -⟩, -, matched, lost⟩ :=
    exists_quietTickets
  refine ⟨catalogue, c, again, built, accepted, said, presence, accepted', fun alike => ?_⟩
  have same := (alike Interpretation.ofFields [("owner.username.keyword", "kari")]).1
  rw [matched, lost] at same
  cases same

end FacetSearch
