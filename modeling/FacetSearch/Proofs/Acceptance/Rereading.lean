import FacetSearch.Proofs.Acceptance.Positions
import FacetSearch.Proofs.Text.Trimming

/-!
# Reading accepted criteria again

The pairs of accepted criteria are gathered to the same entries, their values trimmed and decoded once
more. Under a host without commas, and where no decoded value holds a percent sign, nothing is wrong
with these values, so that the criteria are accepted again as far as the bounds allow.
-/

namespace FacetSearch.Acceptance

open Criteria (Agree)
open Text (Trimmed)

variable {dt : DocumentType} {apiHost : String} {catalogue : Catalogue} {c c' : Criteria} {e : Entry}
  {extra : List String} {limits : Limits} {pairs : List (String × String)}

/-! ### Decoded values -/

theorem trim_expandUri_ne_empty (rules : Rules) (path value : String) :
    Text.trim (rules.expandUri path value) ≠ "" := by
  obtain ⟨d, hd, visible, -⟩ := rules.exists_visible_expandUri path value
  intro empty
  rw [Text.trim_eq_empty_iff.mp empty d hd] at visible
  cases visible

section

variable (h : catalogue.IsFor dt apiHost) (listed : e.parameter ∈ dt.definition.allParameters)
  (isDecoded : e.parameter.decoded = true)
include h listed isDecoded

omit h in
theorem delimiter_of_decoded : e.parameter.operator.delimiter = ',' :=
  ((DocumentType.isRegular_of_mem listed).decoded isDecoded).2

omit h in
theorem elements_trim : Entry.elements { e with value := Text.trim e.value } = e.elements := by
  rw [Entry.elements, Entry.elements, Parameter.elements, Parameter.elements,
    delimiter_of_decoded listed isDecoded]
  exact Text.map_trim_split_trim (by decide) e.value

theorem trim_ne_empty_of_sound (sound : issue? catalogue e = none) : Text.trim e.value ≠ "" := by
  intro empty
  have filled := ((issue?_of_decoded h listed isDecoded).mp sound).2
  rw [← elements_trim listed isDecoded, empty, Entry.elements, Parameter.elements,
    delimiter_of_decoded listed isDecoded] at filled
  exact filled "" List.mem_cons_self rfl

omit h in
theorem settleEntry_of_plain {rules : Rules} (plain : e.parameter.uriPrefix = none) :
    settleEntry rules e = e := by
  rw [settleEntry, settleDates_of_ne (undated_of_decoded listed isDecoded),
    settleAddresses_of_none plain]

omit h listed isDecoded in
theorem elements_ne_nil (e : Entry) : e.elements ≠ [] := by
  simpa [Entry.elements, Parameter.elements] using Text.split_ne_nil _ e.value

theorem trim_settleEntry_ne_empty (sound : issue? catalogue e = none) :
    Text.trim (settleEntry catalogue.rules e).value ≠ "" := by
  cases address : e.parameter.uriPrefix with
  | none =>
    rw [settleEntry_of_plain listed isDecoded address]
    exact trim_ne_empty_of_sound h listed isDecoded sound
  | some path =>
    rw [settleEntry_of_address (undated_of_decoded listed isDecoded) address]
    obtain ⟨x, rest, parts⟩ := List.exists_cons_of_ne_nil (elements_ne_nil e)
    have member : catalogue.rules.expandUri path x ∈ e.elements.map (catalogue.rules.expandUri path) :=
      List.mem_map_of_mem (parts ▸ List.mem_cons_self)
    intro empty
    apply trim_expandUri_ne_empty catalogue.rules path x
    rw [Text.trim_eq_empty_iff] at empty ⊢
    exact fun d hd => empty d (Text.mem_join_of_mem member hd)

/-- Under a host without commas the addresses of a list are a list of as many addresses. -/
theorem issue?_settleEntry (single : ',' ∉ apiHost.toList) (sound : issue? catalogue e = none) :
    issue? catalogue (settleEntry catalogue.rules e) = none := by
  cases address : e.parameter.uriPrefix with
  | none => rwa [settleEntry_of_plain listed isDecoded address]
  | some path =>
    obtain ⟨-, many, inPath, -⟩ := regularAddress listed address
    have delimiter := delimiter_of_decoded listed isDecoded
    have free : ∀ a ∈ e.elements.map (catalogue.rules.expandUri path), ',' ∉ a.toList :=
      not_mem_of_mem_elements (by rwa [h.host]) inPath delimiter
    rw [settleEntry_of_address (undated_of_decoded listed isDecoded) address, delimiter]
    have some : e.elements.map (catalogue.rules.expandUri path) ≠ [] :=
      fun none_ => elements_ne_nil e (List.map_eq_nil_iff.mp none_)
    have filled : ∀ a ∈ e.elements.map (catalogue.rules.expandUri path), Text.trim a ≠ "" := by
      intro a ha
      obtain ⟨x, -, rfl⟩ := List.mem_map.mp ha
      exact trim_expandUri_ne_empty catalogue.rules path x
    generalize e.elements.map (catalogue.rules.expandUri path) = addresses at *
    refine (issue?_of_decoded (e := ⟨e.parameter, Text.join (',').toString addresses⟩)
      h listed isDecoded).mpr ⟨fun takesOne => ?_, ?_⟩
    · rw [many] at takesOne
      cases takesOne
    · rw [elements_join delimiter some free]
      intro x hx
      obtain ⟨a, ha, rfl⟩ := List.mem_map.mp hx
      exact filled a ha

/-- A value without percent signs is only trimmed, which leaves its elements as they are. -/
theorem issue?_reread (unescaped : '%' ∉ e.value.toList) (sound : issue? catalogue e = none) :
    issue? catalogue (reread e) = none := by
  have trimmed : reread e = { e with value := Text.trim e.value } := by
    rw [reread, decoded_eq_self fun found => unescaped (Text.mem_trim found)]
  have checked := (issue?_of_decoded h listed isDecoded).mp sound
  rw [← elements_trim listed isDecoded] at checked
  rw [trimmed]
  exact (issue?_of_decoded (e := { e with value := Text.trim e.value }) h listed isDecoded).mpr checked

end

/-! ### Accepted values -/

section

variable (h : catalogue.IsFor dt apiHost) (accepted : catalogue.accept extra limits pairs = .ok c)
include h accepted

theorem isSettled_of_accept (he : e ∈ c.entries) (plain : e.parameter.decoded = false) :
    IsSettled catalogue e := by
  obtain ⟨e', listed, sound, tidy, rfl⟩ := origin_of_accept h accepted e he
  rw [settleEntry_parameter] at plain
  exact isSettled_settleEntry_tidy h listed plain sound (tidy plain)

theorem trim_ne_empty_of_accept (he : e ∈ c.entries) : Text.trim e.value ≠ "" := by
  cases isDecoded : e.parameter.decoded with
  | false => exact trim_ne_empty_of_isSettled (isSettled_of_accept h accepted he isDecoded)
  | true =>
    obtain ⟨e', listed, sound, -, rfl⟩ := origin_of_accept h accepted e he
    rw [settleEntry_parameter] at isDecoded
    exact trim_settleEntry_ne_empty h listed isDecoded sound

end

/-! ### Criteria that can be sent -/

def IsUnescaped (c : Criteria) : Prop :=
  ∀ e ∈ c.entries, e.parameter.decoded = true → '%' ∉ e.value.toList

instance (c : Criteria) : Decidable (IsUnescaped c) :=
  inferInstanceAs (Decidable (∀ e ∈ c.entries, e.parameter.decoded = true → '%' ∉ e.value.toList))

/-- Criteria whose pairs are gathered to the same entries, those of the presentation as they are. -/
structure IsSendable (dt : DocumentType) (catalogue : Catalogue) (c : Criteria) : Prop where
  placed : c.IsPlaced dt
  filled : ∀ e ∈ c.search, Text.trim e.value ≠ ""
  control : ∀ e ∈ c.control, IsSettled catalogue e

/-- Criteria whose pairs pass every check of a request but the bounds. -/
structure IsReadable (dt : DocumentType) (catalogue : Catalogue) (c : Criteria) : Prop extends
    IsSendable dt catalogue c where
  sound : ∀ e ∈ c.search, issue? catalogue (reread e) = none
  ordered : IsOrdered dt c
  facets : checkFacets catalogue c = .ok ()
  unpaged : c.page? = none

section

variable (h : catalogue.IsFor dt apiHost) (accepted : catalogue.accept extra limits pairs = .ok c)
include h accepted

theorem isSendable_of_accept : IsSendable dt catalogue c := by
  obtain ⟨placed, -⟩ := shape_of_accept h accepted
  refine ⟨placed, fun e he => trim_ne_empty_of_accept h accepted (Criteria.mem_entries.mpr (Or.inl he)),
    fun e he => ?_⟩
  have member := Criteria.mem_entries.mpr (Or.inr he)
  apply isSettled_of_accept h accepted member
  cases isDecoded : e.parameter.decoded with
  | false => rfl
  | true =>
    exact absurd (placed.control e he)
      (DocumentType.scope_of_decoded (placed.listed e member) isDecoded)

theorem isReadable_of_accept (single : ',' ∉ apiHost.toList) (unescaped : IsUnescaped c) :
    IsReadable dt catalogue c := by
  obtain ⟨-, ordered, facets, unpaged, -⟩ := shape_of_accept h accepted
  refine ⟨isSendable_of_accept h accepted, fun e he => ?_, ordered, facets, unpaged⟩
  have member := Criteria.mem_entries.mpr (Or.inl he)
  cases isDecoded : e.parameter.decoded with
  | false =>
    have settled := isSettled_of_accept h accepted member isDecoded
    rw [reread_of_isSettled settled]
    exact settled.sound
  | true =>
    have plain := unescaped e member isDecoded
    obtain ⟨e', listed, sound, -, rfl⟩ := origin_of_accept h accepted e member
    have same := settleEntry_parameter catalogue.rules e'
    rw [same] at isDecoded
    exact issue?_reread h (by rwa [same]) (by rwa [same]) plain
      (issue?_settleEntry h listed isDecoded single sound)

end

/-! ### Gathering the pairs -/

def rereadSearch (c : Criteria) : Criteria := { c with search := c.search.map reread }

theorem contains_rereadSearch (c : Criteria) (name : String) :
    (rereadSearch c).contains name = c.contains name := by
  rw [Criteria.contains, Criteria.contains, Criteria.entry?_eq, Criteria.entry?_eq, rereadSearch,
    Entry.named?_map name_reread]
  cases Entry.named? name c.search <;> rfl

namespace IsSendable

variable {p : Parameter} {value : String}

theorem set (sendable : IsSendable dt catalogue c) (h : catalogue.IsFor dt apiHost)
    (control : p.scope = .control) (settled : IsSettled catalogue ⟨p, value⟩) :
    IsSendable dt catalogue (c.set p value) := by
  have hp : p ∈ dt.definition.allParameters := h.definition ▸ settled.listed
  have placed : (c.set p value).IsPlaced dt := sendable.placed.modifyFor hp
  rw [Criteria.set, Criteria.search_modifyFor control] at placed ⊢
  refine ⟨placed, sendable.filled, Entry.forall_upsert settled (fun e he same => ?_) sendable.control⟩
  have listed := sendable.placed.listed e (Criteria.mem_entries.mpr (Or.inr he))
  rwa [DocumentType.eq_of_name listed hp same]

theorem set_search (sendable : IsSendable dt catalogue c) (hp : p ∈ dt.definition.allParameters)
    (search : p.scope ≠ .control) (filled : Text.trim value ≠ "") :
    IsSendable dt catalogue (c.set p value) := by
  have placed : (c.set p value).IsPlaced dt := sendable.placed.modifyFor hp
  rw [Criteria.set, Criteria.modifyFor, if_neg search] at placed ⊢
  exact ⟨placed, Entry.forall_upsert (P := fun e => Text.trim e.value ≠ "") filled (fun _ _ _ => filled)
    sendable.filled, sendable.control⟩

theorem merge_of_absent (sendable : IsSendable dt catalogue c) (h : catalogue.IsFor dt apiHost)
    (control : p.scope = .control) (settled : IsSettled catalogue ⟨p, value⟩)
    (absent : c.entry? p.name = none) : IsSendable dt catalogue (c.merge p value) := by
  have hp : p ∈ dt.definition.allParameters := h.definition ▸ settled.listed
  have placed : (c.merge p value).IsPlaced dt := sendable.placed.modifyFor hp
  rw [sendable.placed.entry?_control hp control, Entry.named?_eq_none_iff] at absent
  rw [Criteria.merge, Criteria.search_modifyFor control] at placed ⊢
  exact ⟨placed, sendable.filled,
    Entry.forall_upsert settled (fun e he same => absurd same (absent e he)) sendable.control⟩

theorem remove (sendable : IsSendable dt catalogue c) (hp : p ∈ dt.definition.allParameters)
    (control : p.scope = .control) : IsSendable dt catalogue (c.remove p.name) := by
  have placed := sendable.placed.remove p.name
  rw [sendable.placed.remove_control hp control] at placed ⊢
  exact ⟨placed, sendable.filled, fun e he => sendable.control e (List.mem_filter.mp he).1⟩

theorem placed_rereadSearch (sendable : IsSendable dt catalogue c) : (rereadSearch c).IsPlaced dt := by
  have mapped := sendable.placed.map (f := reread) fun _ => rfl
  rwa [map_reread sendable.control] at mapped

theorem entry?_rereadSearch (sendable : IsSendable dt catalogue c) (name : String) :
    Criteria.entry? (rereadSearch c) name = (c.entry? name).map reread := by
  have control : Entry.named? name c.control = (Entry.named? name c.control).map reread := by
    rw [← Entry.named?_map name_reread, map_reread sendable.control]
  rw [Criteria.entry?_eq, Criteria.entry?_eq, rereadSearch, Entry.named?_map name_reread,
    Option.map_or, ← control]

theorem entry?_control (sendable : IsSendable dt catalogue c) (hp : p ∈ dt.definition.allParameters)
    (control : p.scope = .control) : Criteria.entry? (rereadSearch c) p.name = c.entry? p.name := by
  rw [sendable.entry?_rereadSearch]
  cases found : c.entry? p.name with
  | none => rfl
  | some e =>
    rw [sendable.placed.entry?_control hp control] at found
    rw [Option.map_some, reread_of_isSettled (sendable.control e (Entry.named?_eq_some found).1)]

theorem gather_toPairs (sendable : IsSendable dt catalogue c) (h : catalogue.IsFor dt apiHost)
    (required : c.required = requiredNames catalogue extra) :
    gather catalogue extra c.toPairs = ⟨rereadSearch c, []⟩ := by
  have listed : ∀ e ∈ c.control ++ c.search, e.parameter ∈ dt.definition.allParameters :=
    fun e he => sendable.placed.listed e (List.mem_append.mpr (List.mem_append.mp he).symm)
  have filled : ∀ e ∈ c.control ++ c.search, Text.trim e.value ≠ "" := by
    intro e he
    rcases List.mem_append.mp he with he | he
    · exact trim_ne_empty_of_isSettled (sendable.control e he)
    · exact sendable.filled e he
  have once : ((c.control ++ c.search).map Entry.name).Nodup :=
    (List.perm_append_comm.map Entry.name).nodup_iff.mp sendable.placed.entriesOnce
  have whole : (c.control ++ c.search).map reread =
      (rereadSearch c).control ++ (rereadSearch c).search := by
    rw [List.map_append, map_reread sendable.control]
    rfl
  rw [Criteria.toPairs, gather_entries h listed filled once, whole, ← required]
  exact congrArg (Gathered.mk · []) (sorted_toPairs sendable.placed_rereadSearch)

theorem gather_toPairs_append (sendable : IsSendable dt catalogue c) (h : catalogue.IsFor dt apiHost)
    (required : c.required = requiredNames catalogue extra) (control : p.scope = .control)
    (settled : IsSettled catalogue ⟨p, value⟩) (absent : ∀ e ∈ c.entries, e.name ≠ p.name) :
    gather catalogue extra (c.toPairs ++ [(p.name, value)]) = ⟨rereadSearch (c.merge p value), []⟩ := by
  have listed : p ∈ dt.definition.allParameters := h.definition ▸ settled.listed
  have fresh : ∀ e ∈ (rereadSearch c).entries, e.name ≠ p.name := by
    intro e he
    rcases Criteria.mem_entries.mp he with he | he
    · obtain ⟨e', he', rfl⟩ := List.mem_map.mp he
      exact absent e' (Criteria.mem_entries.mpr (Or.inl he'))
    · exact absent e (Criteria.mem_entries.mpr (Or.inr he))
  have first : c.toPairs.foldl (Gathered.add catalogue)
      { criteria := Criteria.requiring (catalogue.definition.required ++ extra) } =
      ⟨rereadSearch c, []⟩ := sendable.gather_toPairs h required
  have added := add_listed (g := ⟨rereadSearch c, []⟩) (e := ⟨p, value⟩) h listed
    (trim_ne_empty_of_isSettled settled) fresh
  rw [gather, List.foldl_append, first, List.foldl_cons, List.foldl_nil]
  refine added.trans ?_
  rw [reread_of_isSettled settled, Criteria.merge_of_absent absent, Criteria.search_modifyFor control,
    Criteria.search_modifyFor control]
  rfl

end IsSendable

/-! ### What becomes of an entry -/

theorem entry?_addDefaults (h : catalogue.IsFor dt apiHost) {name : String}
    (stands : c.contains name = true ∨ catalogue.defaultValue? name = none) :
    Criteria.entry? (addDefaults catalogue c) name = c.entry? name := by
  have untouched : name ∉ absent c ∨ catalogue.defaultValue? name = none := by
    refine stands.imp_left fun present missing => ?_
    have gone := (List.mem_filter.mp missing).2
    rw [present] at gone
    cases gone
  clear stands
  unfold addDefaults
  generalize absent c = names at untouched
  induction names generalizing c with
  | nil => rfl
  | cons first rest ih =>
    rw [List.foldl_cons, ih (untouched.imp_left fun out member => out (List.mem_cons_of_mem first member))]
    unfold addDefault
    split
    · rename_i p value found default
      rw [Criteria.merge, Criteria.entry?_modifyFor_of_ne]
      rw [(h.mem_of_parameter? found).2]
      rintro rfl
      rcases untouched with out | none_
      · exact out List.mem_cons_self
      · rw [default] at none_
        cases none_
    · rfl

/-- Apart from order and page, what is gathered under a name is accepted in its final form. -/
theorem entry?_of_accept (h : catalogue.IsFor dt apiHost)
    (accepted : catalogue.accept extra limits pairs = .ok c) {name : String}
    (order : name ≠ Control.order) (sort : name ≠ Control.sort) (page : name ≠ Control.page)
    (offset : name ≠ Control.offset ∨ (gather catalogue extra pairs).criteria.page? = none)
    (stands : (gather catalogue extra pairs).criteria.contains name = true ∨
      catalogue.defaultValue? name = none) :
    c.entry? name = ((gather catalogue extra pairs).criteria.entry? name).map
      (settleEntry catalogue.rules) := by
  obtain ⟨collected, sorted, rfl, -, -, -, sorting, -, -, rfl⟩ := accept_eq_ok_iff.mp accepted
  have paged : Criteria.entry? (settlePage catalogue sorted) name = sorted.entry? name := by
    rcases offset with other | unpaged
    · exact entry?_settlePage_of_ne h sorted page other
    · have unread : sorted.page? = none := by
        have same : sorted.entry? Control.page = _ :=
          entry?_settleSort_of_ne h sorting (by decide) (by decide)
        rw [entry?_addDefaults h (Or.inr rfl)] at same
        exact (Criteria.number?_congr same).trans unpaged
      unfold settlePage
      rw [unread]
  rw [settle_eq, entry?_settleEntries, paged, entry?_settleSort_of_ne h sorting order sort,
    entry?_addDefaults h stands]

/-! ### Accepting them again -/

namespace IsReadable

theorem of_agree (readable : IsReadable dt catalogue c) (agree : Agree c c')
    (sendable : IsSendable dt catalogue c') : IsReadable dt catalogue c' := by
  have free : ∀ name ∈ [Control.order, Control.sort, Control.aggregation],
      name ≠ Control.offset ∧ name ≠ Control.searchAfter := by decide
  have same : ∀ name ∈ [Control.order, Control.sort, Control.aggregation],
      c'.entry? name = c.entry? name :=
    fun name hn => (agree.entry? name
      (Criteria.not_positional (free name hn).1 (free name hn).2)).symm
  refine ⟨sendable, ?_, ⟨(same _ (by decide)).trans readable.ordered.1, ?_⟩,
    (checkFacets_congr (same _ (by decide))).trans readable.facets, agree.page?.symm.trans readable.unpaged⟩
  · rw [← agree.search]
    exact readable.sound
  · intro x written
    exact readable.ordered.2 x (agree.sort?.trans written)

/-- The pairs of readable criteria are refused for their bounds or accepted in their final form. -/
theorem accept_iff {gathered again : Criteria} (readable : IsReadable dt catalogue c)
    (h : catalogue.IsFor dt apiHost) (read : gather catalogue extra pairs = ⟨gathered, []⟩)
    (completed : addDefaults catalogue gathered = rereadSearch c)
    (present : absent (rereadSearch c) = []) : catalogue.accept extra limits pairs = .ok again ↔
      checkBounds limits c = .ok () ∧ settleEntries catalogue.rules (rereadSearch c) = again := by
  have same : ∀ p ∈ dt.definition.allParameters, p.scope = .control →
      Criteria.entry? (rereadSearch c) p.name = c.entry? p.name := fun p => readable.entry?_control
  have sound : ∀ e ∈ (rereadSearch c).entries, issue? catalogue e = none := by
    intro e he
    rcases Criteria.mem_entries.mp he with he | he
    · obtain ⟨e', he', rfl⟩ := List.mem_map.mp he
      exact readable.sound e' he'
    · exact (readable.control e he).sound
  have written : (rereadSearch c).sort? = c.sort? := Criteria.get?_congr (same _ dt.sort_mem rfl)
  have ordered : IsOrdered dt (rereadSearch c) :=
    ⟨(same _ dt.order_mem rfl).trans readable.ordered.1, written ▸ readable.ordered.2⟩
  have paged : (rereadSearch c).page? = c.page? := Criteria.number?_congr (same _ dt.page_mem rfl)
  rw [accept_iff_of_gathered h read completed present readable.placed_rereadSearch sound ordered
    ((checkFacets_congr (same _ dt.aggregation_mem rfl)).trans readable.facets)
    (paged.trans readable.unpaged), checkBounds_congr same]

/-- Where the required names are there once the defaults are added, the bounds decide. -/
theorem exists_accept_iff {gathered : Criteria} {complete : Prop} (readable : IsReadable dt catalogue c)
    (h : catalogue.IsFor dt apiHost) (read : gather catalogue extra pairs = ⟨gathered, []⟩)
    (needed : ∀ again, catalogue.accept extra limits pairs = .ok again → complete)
    (completes : complete →
      addDefaults catalogue gathered = rereadSearch c ∧ absent (rereadSearch c) = []) :
    (∃ again, catalogue.accept extra limits pairs = .ok again) ↔
      complete ∧ checkBounds limits c = .ok () := by
  have decides : complete → ((∃ again, catalogue.accept extra limits pairs = .ok again) ↔
      checkBounds limits c = .ok ()) := by
    intro whole
    obtain ⟨completed, present⟩ := completes whole
    simp only [readable.accept_iff h read completed present, exists_and_left, exists_eq', and_true]
  constructor
  · rintro ⟨again, accepted⟩
    have whole := needed again accepted
    exact ⟨whole, (decides whole).mp ⟨again, accepted⟩⟩
  · rintro ⟨whole, bounds⟩
    exact (decides whole).mpr bounds

end IsReadable

end FacetSearch.Acceptance
