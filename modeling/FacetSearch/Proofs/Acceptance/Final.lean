import FacetSearch.Proofs.Acceptance.Stages

/-!
# Accepted criteria

Accepted criteria are final: every entry is settled, the order is written out, and no page is left to
be turned into an offset. Final criteria are a fixed point of acceptance.
-/

namespace FacetSearch.Acceptance

open Control (sortParameter)
open Text (Trimmed)

variable {dt : DocumentType} {apiHost : String} {catalogue : Catalogue} {c : Criteria}
  {extra : List String} {limits : Limits} {pairs : List (String × String)}

structure IsFinal (dt : DocumentType) (catalogue : Catalogue) (limits : Limits) (c : Criteria) :
    Prop where
  placed : c.IsPlaced dt
  settled : ∀ e ∈ c.entries, IsSettled catalogue e
  ordered : IsOrdered dt c
  facets : checkFacets catalogue c = .ok ()
  unpaged : c.page? = none
  bounds : checkBounds limits c = .ok ()

def requiredNames (catalogue : Catalogue) (extra : List String) : List String :=
  (Criteria.requiring (catalogue.definition.required ++ extra)).required

/-! ### What is accepted is final -/

theorem checkFacets_congr {c' : Criteria}
    (same : c.entry? Control.aggregation = c'.entry? Control.aggregation) :
    checkFacets catalogue c = checkFacets catalogue c' := by
  have facets : c.facets = c'.facets := by
    rw [Criteria.facets, Criteria.facets, Criteria.get?, Criteria.get?, same]
  rw [checkFacets, checkFacets, facets]

/-- The entries of the criteria that a request without stray percent signs and blanks in its decoded
values is accepted as. -/
def IsPlain (c : Criteria) : Prop :=
  ∀ e ∈ c.entries, e.parameter.decoded = true → '%' ∉ e.value.toList ∧ Trimmed e.value

instance (c : Criteria) : Decidable (IsPlain c) :=
  inferInstanceAs (Decidable (∀ e ∈ c.entries,
    e.parameter.decoded = true → '%' ∉ e.value.toList ∧ Trimmed e.value))

section

variable (h : catalogue.IsFor dt apiHost) (accepted : catalogue.accept extra limits pairs = .ok c)
include h accepted

theorem exists_sound_of_accept : ∃ sorted, IsSound dt catalogue (requiredNames catalogue extra) sorted ∧
    IsOrdered dt sorted ∧ (∀ name ∈ requiredNames catalogue extra, name ≠ Control.order →
      sorted.contains name = true) ∧
    checkFacets catalogue sorted = .ok () ∧ settle catalogue sorted = c ∧
    checkBounds limits c = .ok () := by
  obtain ⟨collected, sorted, rfl, missing, -, values, sorting, facets, bounds, rfl⟩ :=
    accept_eq_ok_iff.mp accepted
  have ready : IsSound dt catalogue (requiredNames catalogue extra)
      (addDefaults catalogue (gather catalogue extra pairs).criteria) :=
    ⟨isCollected_addDefaults h (isCollected_gather h extra pairs), checkValues_eq_ok_iff.mp values⟩
  obtain ⟨sound, ordered⟩ := isOrdered_settleSort h ready sorting
  refine ⟨sorted, sound, ordered, ?_, facets, rfl, bounds⟩
  intro name required other
  have present : (addDefaults catalogue (gather catalogue extra pairs).criteria).contains name = true := by
    have kept := List.filter_eq_nil_iff.mp missing name (ready.required ▸ required)
    simpa using kept
  have rest : ((addDefaults catalogue (gather catalogue extra pairs).criteria).remove
      Control.order).contains name = true := by
    rwa [Criteria.contains, Criteria.entry?_remove_of_ne other]
  rcases settleSort_ok h sorting with ⟨-, rfl⟩ | ⟨x, ds, -, -, rfl⟩
  · exact rest
  · by_cases sort : name = Control.sort
    · rw [sort]
      exact Criteria.contains_iff.mpr
        ⟨_, (ready.placed.remove Control.order).get?_set_self dt.sort_mem⟩
    · rwa [Criteria.contains, Criteria.set, Criteria.entry?_modifyFor_of_ne sort]

theorem required_of_accept : c.required = requiredNames catalogue extra := by
  obtain ⟨sorted, sound, -, -, -, rfl, -⟩ := exists_sound_of_accept h accepted
  exact (isSound_settlePage h sound).1.required

/-- Of the required names only the direction of the order and the page may be gone. -/
theorem contains_of_accept {name : String} (required : name ∈ requiredNames catalogue extra)
    (order : name ≠ Control.order) (page : name ≠ Control.page) : c.contains name = true := by
  obtain ⟨sorted, sound, -, present, -, rfl, -⟩ := exists_sound_of_accept h accepted
  have kept := contains_settlePage h sound page (present name required order)
  rw [settle_eq, Criteria.contains, entry?_settleEntries, Option.isSome_map]
  exact kept

/-- Every accepted entry is the final form of one that nothing is wrong with. -/
theorem origin_of_accept : ∀ e ∈ c.entries, ∃ e' : Entry, e'.parameter ∈ dt.definition.allParameters ∧
    issue? catalogue e' = none ∧ IsTidy e' ∧ settleEntry catalogue.rules e' = e := by
  obtain ⟨sorted, sound, -, -, -, rfl, -⟩ := exists_sound_of_accept h accepted
  obtain ⟨ready, -⟩ := isSound_settlePage h sound
  intro e he
  have origin : ∃ e' ∈ (settlePage catalogue sorted).entries,
      settleEntry catalogue.rules e' = e := by
    rcases Criteria.mem_entries.mp he with he | he
    · obtain ⟨e', member, rfl⟩ := List.mem_map.mp he
      exact ⟨e', Criteria.mem_entries.mpr (Or.inl member), rfl⟩
    · obtain ⟨e', member, rfl⟩ := List.mem_map.mp he
      exact ⟨e', Criteria.mem_entries.mpr (Or.inr member), rfl⟩
  obtain ⟨e', member, same⟩ := origin
  exact ⟨e', ready.placed.listed e' member, ready.sound e' member, ready.tidy e' member, same⟩

/-- The form of accepted criteria, whatever the values of the query are. -/
theorem shape_of_accept : c.IsPlaced dt ∧ IsOrdered dt c ∧ checkFacets catalogue c = .ok () ∧
    c.page? = none ∧ checkBounds limits c = .ok () := by
  obtain ⟨sorted, sound, ordered, -, facets, rfl, bounds⟩ := exists_sound_of_accept h accepted
  obtain ⟨ready, unpaged⟩ := isSound_settlePage h sound
  have order := entry?_settle_of_ne h sound dt.order_mem rfl (by decide) (by decide)
  have sort := entry?_settle_of_ne h sound dt.sort_mem rfl (by decide) (by decide)
  have aggregation := entry?_settle_of_ne h sound dt.aggregation_mem rfl (by decide) (by decide)
  refine ⟨ready.placed.map (settleEntry_parameter _), ⟨order.trans ordered.1, ?_⟩,
    (checkFacets_congr aggregation).trans facets, ?_, bounds⟩
  · intro x written
    apply ordered.2 x
    rw [← written]
    exact Criteria.get?_congr sort.symm
  · have page : Criteria.entry? (settle catalogue sorted) Control.page =
        Criteria.entry? (settlePage catalogue sorted) Control.page :=
      entry?_settleEntries_control ready.placed dt.page_mem rfl
    exact (Criteria.number?_congr page).trans unpaged

theorem isFinal_of_accept (absolute : IsAbsolute apiHost) (plain : IsPlain c) :
    IsFinal dt catalogue limits c := by
  obtain ⟨placed, ordered, facets, unpaged, bounds⟩ := shape_of_accept h accepted
  refine ⟨placed, ?_, ordered, facets, unpaged, bounds⟩
  intro e he
  obtain ⟨e', listed, sound, tidy, rfl⟩ := origin_of_accept h accepted e he
  refine isSettled_settleEntry h listed absolute sound tidy fun isDecoded => plain _ he ?_
  rwa [settleEntry_parameter]

end

/-! ### What is final is accepted as it is -/

/-- The entries of the query and those of the presentation, each in their order. -/
def sorted (required : List String) (es : List Entry) : Criteria where
  search := es.filter (·.parameter.scope != .control)
  control := es.filter (·.parameter.scope == .control)
  required := required

theorem sorted_toPairs (placed : c.IsPlaced dt) :
    sorted c.required (c.control ++ c.search) = c := by
  have search : ∀ e ∈ c.search, (e.parameter.scope == .control) = false :=
    fun e he => beq_eq_false_iff_ne.mpr (placed.search e he)
  have control : ∀ e ∈ c.control, (e.parameter.scope == .control) = true :=
    fun e he => beq_iff_eq.mpr (placed.control e he)
  have left : c.control.filter (·.parameter.scope != .control) = [] :=
    List.filter_eq_nil_iff.mpr fun e he => by simp [bne, control e he]
  have right : c.search.filter (·.parameter.scope == .control) = [] :=
    List.filter_eq_nil_iff.mpr fun e he => by simp [search e he]
  rw [sorted, List.filter_append, List.filter_append, left, right,
    List.filter_eq_self.mpr fun e he => by simp [bne, search e he], List.filter_eq_self.mpr control,
    List.nil_append, List.append_nil]

theorem sorted_append (required : List String) (es : List Entry) (e : Entry) :
    sorted required (es ++ [e]) = (sorted required es).modifyFor e.parameter (· ++ [e]) := by
  rw [Criteria.modifyFor, sorted, sorted, List.filter_append, List.filter_append]
  split
  · rename_i control
    simp [control]
  · rename_i search
    simp [search]

/-! ### Required names -/

theorem requiring_fold {names : List String} : ∀ known : List String, known.Nodup →
    (names.foldl (fun acc name => if acc.contains name then acc else acc ++ [name]) known).Nodup ∧
      ∀ name, name ∈ names.foldl (fun acc name => if acc.contains name then acc else acc ++ [name])
        known ↔ name ∈ known ∨ name ∈ names := by
  induction names with
  | nil => exact fun known once => ⟨once, fun name => by simp⟩
  | cons first rest ih =>
    intro known once
    rw [List.foldl_cons]
    by_cases found : known.contains first = true
    · rw [if_pos found]
      obtain ⟨nodup, members⟩ := ih known once
      refine ⟨nodup, fun name => (members name).trans ?_⟩
      have stands : first ∈ known := by simpa using found
      constructor
      · rintro (old | new)
        · exact Or.inl old
        · exact Or.inr (List.mem_cons_of_mem first new)
      · rintro (old | new)
        · exact Or.inl old
        · rcases List.mem_cons.mp new with rfl | new
          · exact Or.inl stands
          · exact Or.inr new
    · rw [if_neg found]
      have fresh : first ∉ known := by simpa using found
      have next : (known ++ [first]).Nodup := by
        rw [List.nodup_append]
        refine ⟨once, by simp, ?_⟩
        intro a ha b hb same
        obtain rfl := List.mem_singleton.mp hb
        exact fresh (same ▸ ha)
      obtain ⟨nodup, members⟩ := ih _ next
      refine ⟨nodup, fun name => (members name).trans ?_⟩
      simp only [List.mem_append, List.mem_cons, List.not_mem_nil, or_false, or_assoc]

theorem nodup_requiredNames (catalogue : Catalogue) (extra : List String) :
    (requiredNames catalogue extra).Nodup := (requiring_fold [] List.nodup_nil).1

theorem mem_requiredNames {name : String} : name ∈ requiredNames catalogue extra ↔
    name ∈ catalogue.definition.required ∨ name ∈ extra := by
  rw [← List.mem_append, requiredNames, Criteria.requiring,
    (requiring_fold [] List.nodup_nil).2 name]
  exact ⟨fun known => known.resolve_left List.not_mem_nil, Or.inr⟩

/-! ### Pairs of entries -/

/-- The entry that a request gets from the value of another: trimmed and decoded once more. -/
def reread (e : Entry) : Entry := { e with value := decoded e.parameter (Text.trim e.value) }

theorem name_reread (e : Entry) : (reread e).name = e.name := rfl

theorem reread_of_isSettled {e : Entry} (settled : IsSettled catalogue e) : reread e = e := by
  rw [reread, show Text.trim e.value = e.value from settled.trimmed, settled.plain]

theorem map_reread {es : List Entry} (settled : ∀ e ∈ es, IsSettled catalogue e) :
    es.map reread = es :=
  (List.map_congr_left fun e he => reread_of_isSettled (settled e he)).trans (List.map_id es)

theorem trim_ne_empty_of_isSettled {e : Entry} (settled : IsSettled catalogue e) :
    Text.trim e.value ≠ "" := by
  rw [show Text.trim e.value = e.value from settled.trimmed]
  exact settled.filled

section

variable (h : catalogue.IsFor dt apiHost)
include h

theorem add_listed {g : Gathered} {e : Entry} (listed : e.parameter ∈ dt.definition.allParameters)
    (filled : Text.trim e.value ≠ "") (absent : ∀ f ∈ g.criteria.entries, f.name ≠ e.name) :
    g.add catalogue (e.name, e.value) =
      { g with criteria := g.criteria.modifyFor e.parameter (· ++ [reread e]) } := by
  unfold Gathered.add
  simp only
  rw [Entry.name, h.resolve_name listed,
    if_neg (by rw [(DocumentType.isRegular_of_mem listed).known]; exact Bool.false_ne_true),
    if_neg filled, Criteria.merge_of_absent absent]
  rfl

theorem gather_entries {es : List Entry}
    (listed : ∀ e ∈ es, e.parameter ∈ dt.definition.allParameters)
    (filled : ∀ e ∈ es, Text.trim e.value ≠ "") (once : (es.map Entry.name).Nodup) :
    gather catalogue extra (es.map fun e => (e.name, e.value)) =
      { criteria := sorted (requiredNames catalogue extra) (es.map reread) } := by
  -- The entries read so far come before those still to be read.
  have folded : ∀ before, ((before ++ es).map Entry.name).Nodup →
      (es.map fun e => (e.name, e.value)).foldl (Gathered.add catalogue)
        { criteria := sorted (requiredNames catalogue extra) before } =
      { criteria := sorted (requiredNames catalogue extra) (before ++ es.map reread) } := by
    clear once
    induction es with
    | nil =>
      intro before _
      simp only [List.map_nil, List.foldl_nil, List.append_nil]
    | cons e rest ih =>
      intro before once
      have apart : ∀ f ∈ before, f.name ≠ e.name := by
        intro f hf
        rw [List.map_append, List.nodup_append] at once
        exact once.2.2 f.name (List.mem_map_of_mem hf) e.name (List.mem_map_of_mem List.mem_cons_self)
      have absent : ∀ f ∈ (sorted (requiredNames catalogue extra) before).entries,
          f.name ≠ e.name := by
        intro f hf
        rcases Criteria.mem_entries.mp hf with hf | hf
        · exact apart f (List.mem_filter.mp hf).1
        · exact apart f (List.mem_filter.mp hf).1
      have next : ((before ++ [reread e] ++ rest).map Entry.name).Nodup := by
        rw [List.append_assoc, List.singleton_append, List.map_append, List.map_cons, name_reread,
          ← List.map_cons, ← List.map_append]
        exact once
      rw [List.map_cons, List.foldl_cons, add_listed h (listed e List.mem_cons_self)
          (filled e List.mem_cons_self) absent,
        show e.parameter = (reread e).parameter from rfl, ← sorted_append,
        ih (fun f hf => listed f (List.mem_cons_of_mem e hf))
          (fun f hf => filled f (List.mem_cons_of_mem e hf)) (before ++ [reread e]) next,
        List.append_assoc]
      rfl
  exact folded [] once

theorem gather_settled {es : List Entry} (settled : ∀ e ∈ es, IsSettled catalogue e)
    (once : (es.map Entry.name).Nodup) :
    gather catalogue extra (es.map fun e => (e.name, e.value)) =
      { criteria := sorted (requiredNames catalogue extra) es } := by
  have listed : ∀ e ∈ es, e.parameter ∈ dt.definition.allParameters :=
    fun e he => h.definition ▸ (settled e he).listed
  rw [gather_entries h listed (fun e he => trim_ne_empty_of_isSettled (settled e he)) once,
    map_reread settled]

theorem settleSort_of_isOrdered (placed : c.IsPlaced dt) (ordered : IsOrdered dt c) :
    settleSort catalogue c = .ok c := by
  unfold settleSort
  simp only [Criteria.take_eq, Criteria.remove_of_absent ordered.1]
  split
  · rfl
  · rename_i x written
    obtain ⟨ds, some_, known, rfl⟩ := ordered.2 x written
    simp only [Directive.parse_expression h some_ known]
    rw [show Control.sort = sortParameter.name from rfl, h.parameter?_name dt.sort_mem]
    simp only [placed.set_of_get? dt.sort_mem rfl written]

omit h in
theorem settle_of_unpaged (unpaged : c.page? = none) :
    settle catalogue c = settleEntries catalogue.rules c := by
  have page : settlePage catalogue c = c := by
    unfold settlePage
    rw [unpaged]
  rw [settle_eq, page]

omit h in
theorem settleEntries_of_isFinal (final : IsFinal dt catalogue limits c) :
    settleEntries catalogue.rules c = c := by
  have each : ∀ es : List Entry, (∀ e ∈ es, IsSettled catalogue e) →
      es.map (settleEntry catalogue.rules) = es :=
    fun es settled => (List.map_congr_left fun e he => (settled e he).settled).trans (List.map_id es)
  rw [settleEntries,
    each c.search fun e he => final.settled e (Criteria.mem_entries.mpr (Or.inl he)),
    each c.control fun e he => final.settled e (Criteria.mem_entries.mpr (Or.inr he))]

omit h in
theorem checkBounds_congr {c' : Criteria}
    (same : ∀ p ∈ dt.definition.allParameters, p.scope = .control →
      c'.entry? p.name = c.entry? p.name) : checkBounds limits c' = checkBounds limits c := by
  have size : c'.size = c.size :=
    congrArg (Option.getD · 0) (Criteria.number?_congr (same _ dt.size_mem rfl))
  have offset : c'.offset = c.offset :=
    congrArg (Option.getD · 0) (Criteria.number?_congr (same _ dt.offset_mem rfl))
  have cursor : c'.searchAfter? = c.searchAfter? := Criteria.get?_congr (same _ dt.cursor_mem rfl)
  rw [checkBounds, checkBounds, sizeIssue?, sizeIssue?, windowIssue?, windowIssue?, size, offset, cursor]

/-- Where the checks of values, order and facets cannot fail, the bounds decide. -/
theorem accept_iff_of_gathered {gathered again : Criteria}
    (read : gather catalogue extra pairs = ⟨gathered, []⟩)
    (completed : addDefaults catalogue gathered = c) (present : absent c = []) (placed : c.IsPlaced dt)
    (sound : ∀ e ∈ c.entries, issue? catalogue e = none) (ordered : IsOrdered dt c)
    (facets : checkFacets catalogue c = .ok ()) (unpaged : c.page? = none) :
    catalogue.accept extra limits pairs = .ok again ↔
      checkBounds limits c = .ok () ∧ settleEntries catalogue.rules c = again := by
  have sorting := settleSort_of_isOrdered h placed ordered
  have settled : checkBounds limits (settleEntries catalogue.rules c) = checkBounds limits c :=
    checkBounds_congr fun p => entry?_settleEntries_control placed
  rw [accept_eq_ok_iff, read]
  constructor
  · rintro ⟨collected, sorted, rfl, -, -, -, sorted_, -, bounds, same⟩
    rw [completed, sorting] at sorted_
    obtain rfl := Except.ok.inj sorted_
    rw [settle_of_unpaged unpaged] at bounds same
    rw [settled] at bounds
    exact ⟨bounds, same⟩
  · rintro ⟨bounds, same⟩
    refine ⟨c, c, completed, present, rfl, checkValues_eq_ok_iff.mpr sound, sorting, facets, ?_, ?_⟩
    · rw [settle_of_unpaged unpaged, settled]
      exact bounds
    · rw [settle_of_unpaged unpaged]
      exact same

theorem accept_of_isFinal {gathered : Criteria} (read : gather catalogue extra pairs = ⟨gathered, []⟩)
    (completed : addDefaults catalogue gathered = c) (present : absent c = [])
    (final : IsFinal dt catalogue limits c) : catalogue.accept extra limits pairs = .ok c := by
  have sound : ∀ e ∈ c.entries, issue? catalogue e = none := fun e he => (final.settled e he).sound
  exact (accept_iff_of_gathered h read completed present final.placed sound final.ordered final.facets
    final.unpaged).mpr ⟨final.bounds, settleEntries_of_isFinal final⟩

theorem gather_toPairs (placed : c.IsPlaced dt) (settled : ∀ e ∈ c.entries, IsSettled catalogue e)
    (required : c.required = requiredNames catalogue extra) :
    gather catalogue extra c.toPairs = ⟨c, []⟩ := by
  have each : ∀ e ∈ c.control ++ c.search, IsSettled catalogue e :=
    fun e he => settled e (List.mem_append.mpr (List.mem_append.mp he).symm)
  have once : ((c.control ++ c.search).map Entry.name).Nodup :=
    (List.perm_append_comm.map Entry.name).nodup_iff.mp placed.entriesOnce
  rw [Criteria.toPairs, gather_settled h each once, ← required, sorted_toPairs placed]

/-- Final criteria that lack nothing are accepted as they are. -/
theorem accept_toPairs (final : IsFinal dt catalogue limits c)
    (required : c.required = requiredNames catalogue extra)
    (present : ∀ name ∈ requiredNames catalogue extra, c.contains name = true) :
    catalogue.accept extra limits c.toPairs = .ok c := by
  have missing : absent c = [] := by
    rw [absent, required]
    apply List.filter_eq_nil_iff.mpr
    intro name hn
    simp [present name hn]
  refine accept_of_isFinal h (gather_toPairs h final.placed final.settled required) ?_ missing final
  rw [addDefaults, missing]
  rfl

end

end FacetSearch.Acceptance
