import FacetSearch.Proofs.Acceptance.Rereading
import FacetSearch.Proofs.Catalogue.Facets
import FacetSearch.Proofs.Links.SelfLink
import FacetSearch.ResultPage

/-!
# Links that refine a search

The link of a counted value stands for the current request with one parameter set to the value, from
the first result on and behind no cursor. Who follows it finds what the value is read as: the value
itself, if it is one trimmed word without escapes.
-/

namespace FacetSearch

open Acceptance
open Control (offsetParameter cursorParameter)
open Number.Decimal (render)
open Text (Trimmed)

variable {dt : DocumentType} {apiHost : String} {catalogue : Catalogue} {c : Criteria} {p : Parameter}
  {f : Facet} {extra : List String} {limits : Limits} {pairs : List (String × String)}
  {name value : String}

/-! ### The pairs of the link -/

namespace Linker

theorem replaced_append {front rest : List (String × String)} (absent : ∀ pair ∈ front, pair.1 ≠ name) :
    replaced name value (front ++ rest) = front ++ replaced name value rest := by
  induction front with
  | nil => rfl
  | cons pair front ih =>
    rw [List.cons_append, replaced, if_neg (absent pair List.mem_cons_self),
      ih fun other member => absent other (List.mem_cons_of_mem pair member), List.cons_append]

theorem changed_of_present (present : ∃ pair ∈ pairs, pair.1 = name) :
    changed name value pairs = replaced name value pairs := by
  induction pairs with
  | nil =>
    obtain ⟨pair, member, -⟩ := present
    cases member
  | cons pair rest ih =>
    rw [changed, replaced]
    split
    · rfl
    · rename_i other
      obtain ⟨found, member, same⟩ := present
      rcases List.mem_cons.mp member with rfl | member
      · exact absurd same other
      · rw [ih ⟨found, member, same⟩]

theorem replaced_toPairs_search (placed : c.IsPlaced dt) (hp : p ∈ dt.definition.allParameters)
    (search : p.scope ≠ .control) : replaced p.name value c.toPairs = (c.set p value).toPairs := by
  have absent : ∀ pair ∈ c.control.map (fun e => (e.name, e.value)), pair.1 ≠ p.name := by
    intro pair member same
    obtain ⟨e, he, rfl⟩ := List.mem_map.mp member
    have listed := placed.listed e (Criteria.mem_entries.mpr (Or.inr he))
    exact search (DocumentType.eq_of_name listed hp same ▸ placed.control e he)
  rw [Criteria.toPairs, List.map_append, replaced_append absent, replaced_map, Criteria.set,
    Criteria.modifyFor, if_neg search, Criteria.toPairs, List.map_append]

end Linker

def Criteria.refined (c : Criteria) (p : Parameter) (value : String) : Criteria :=
  ((c.set p value).remove Control.searchAfter).set offsetParameter (String.ofList (render 0))

theorem Criteria.required_refined (c : Criteria) (p : Parameter) (value : String) :
    (c.refined p value).required = c.required := by
  rw [refined, set, required_modifyFor, required_remove, set, required_modifyFor]

section

variable (value) (placed : c.IsPlaced dt) (hp : p ∈ dt.definition.allParameters)
include placed hp

theorem Criteria.entry?_refined : Criteria.entry? (c.refined p value) Control.offset =
      some ⟨offsetParameter, String.ofList (render 0)⟩ ∧
    Criteria.entry? (c.refined p value) Control.searchAfter = none ∧
    ∀ name, name ≠ Control.offset → name ≠ Control.searchAfter →
      Criteria.entry? (c.refined p value) name = Criteria.entry? (c.set p value) name := by
  have set_ : (c.set p value).IsPlaced dt := placed.modifyFor hp
  refine ⟨(set_.remove _).entry?_set_self dt.offset_mem, ?_, fun name offset cursor => ?_⟩
  · rw [refined, set, entry?_modifyFor_of_ne (by decide)]
    exact set_.entry?_remove_self _
  · rw [refined, set, entry?_modifyFor_of_ne offset, entry?_remove_of_ne cursor]

theorem Linker.pairs_refined (base : Url) (search : p.scope ≠ .control)
    (present : c.contains Control.offset = true) :
    ((ofCriteria base c).refined p.name value).pairs = (c.refined p value).toPairs := by
  have set_ : (c.set p value).IsPlaced dt := placed.modifyFor hp
  have other : Control.offset ≠ p.name := by
    intro same
    have one := DocumentType.eq_of_name dt.offset_mem hp same
    exact search (one ▸ rfl)
  have stands : ((c.set p value).remove Control.searchAfter).contains Control.offset = true := by
    rwa [Criteria.contains, Criteria.entry?_remove_of_ne (by decide), Criteria.set,
      Criteria.entry?_modifyFor_of_ne other]
  rw [refined, Url.pairs_withPairs, ofCriteria, replaced_toPairs_search placed hp search,
    show Control.searchAfter = cursorParameter.name from rfl, without_toPairs set_ dt.cursor_mem rfl,
    changed_of_present, ← render_zero]
  · exact replaced_toPairs (set_.remove _) dt.offset_mem rfl stands
  · obtain ⟨e, found⟩ := Option.isSome_iff_exists.mp stands
    have member := List.mem_of_find?_eq_some found
    refine ⟨(e.name, e.value), List.mem_map_of_mem ?_, by simpa using List.find?_some found⟩
    exact List.mem_append.mpr (List.mem_append.mp member).symm

end

/-! ### Values that are words -/

/-- A value that a request for it finds as it is. -/
structure IsOwnWord (p : Parameter) (value : String) : Prop where
  filled : value ≠ ""
  trimmed : Trimmed value
  single : ',' ∉ value.toList
  plain : p.decoded = true → '%' ∉ value.toList
  address : p.uriPrefix ≠ none → isAddress value = true

instance (p : Parameter) (value : String) : Decidable (IsOwnWord p value) :=
  decidable_of_iff (value ≠ "" ∧ Text.trim value = value ∧ ',' ∉ value.toList ∧
      (p.decoded = true → '%' ∉ value.toList) ∧ (p.uriPrefix ≠ none → isAddress value = true))
    ⟨fun ⟨h₁, h₂, h₃, h₄, h₅⟩ => ⟨h₁, h₂, h₃, h₄, h₅⟩,
      fun ⟨h₁, h₂, h₃, h₄, h₅⟩ => ⟨h₁, h₂, h₃, h₄, h₅⟩⟩

section

variable (h : catalogue.IsFor dt apiHost) (hp : p ∈ dt.definition.allParameters)
  (refines : f.IsRefinedBy p) (word : IsOwnWord p value)

omit h hp in
include refines word in
theorem elements_of_isOwnWord : Entry.elements ⟨p, value⟩ = [value] := by
  rw [Entry.elements, Parameter.elements, refines.operator]
  simp only [Operator.delimiter, Text.split_of_not_mem word.single, List.map_cons, List.map_nil,
    show Text.trim value = value from word.trimmed]

include hp refines in
omit h word in
theorem name_of_isRefinedBy {q : Parameter} (hq : q ∈ dt.definition.allParameters)
    (control : q.scope = .control) : p.name ≠ q.name := by
  intro same
  have scope := refines.scope
  rw [DocumentType.eq_of_name hp hq same, control] at scope
  cases scope

include h hp refines word in
theorem isSettled_of_isOwnWord : IsSettled catalogue ⟨p, value⟩ := by
  have elements := elements_of_isOwnWord refines word
  have form : p.elementPattern = "(?s)^.+$" := by
    rw [Parameter.elementPattern, refines.form, refines.kind]
    rfl
  have undated : p.kind ≠ .date := by
    rw [refines.kind]
    decide
  refine ⟨h.definition ▸ hp, word.trimmed, word.filled, ?_, ?_, ?_⟩
  · cases isDecoded : p.decoded with
    | true => exact decoded_eq_self (word.plain isDecoded)
    | false => simp only [decoded, isDecoded, Bool.false_eq_true, if_false]
  · rw [issue?_eq_none_iff, countFault?_eq_none_iff (by rw [refines.operator]; decide),
      formFault?_eq_none_iff, meaningFault?_eq_none_iff, elements]
    refine ⟨fun _ => Nat.le_refl 1, ?_, fun date => absurd date undated, ?_⟩
    · intro x hx
      obtain rfl := List.mem_singleton.mp hx
      rw [h.acceptsValue_eq hp (form ▸ Pattern.parse?_anyText), Pattern.occursIn_anyText]
      exact Or.inr word.filled
    · exact fun same => absurd same (name_of_isRefinedBy hp refines dt.cursor_mem rfl)
  · cases address : p.uriPrefix with
    | none => rw [settleEntry, settleDates_of_ne undated, settleAddresses_of_none address]
    | some path =>
      have own := word.address (by rw [address]; exact Option.some_ne_none path)
      rw [settleEntry_of_address undated address, elements, List.map_singleton,
        Rules.expandUri_of_isAddress own, Text.join]
      simp [List.intercalate]

end

/-! ### Following the link -/

section

variable (h : catalogue.IsFor dt apiHost) (hp : p ∈ dt.definition.allParameters)
include h hp

theorem Acceptance.IsSendable.refined (sendable : IsSendable dt catalogue c) (search : p.scope ≠ .control)
    (filled : Text.trim value ≠ "") : IsSendable dt catalogue (c.refined p value) :=
  ((sendable.set_search hp search filled).remove dt.cursor_mem rfl).set h rfl (isSettled_offset h 0)

section Followed

variable {again : Criteria} (sendable : IsSendable dt catalogue c)
  (required : c.required = requiredNames catalogue extra) (unpaged : c.page? = none)
  (refines : f.IsRefinedBy p) (filled : Text.trim value ≠ "")
include sendable required unpaged refines filled

omit unpaged in
theorem Acceptance.gather_refined :
    gather catalogue extra (c.refined p value).toPairs = ⟨rereadSearch (c.refined p value), []⟩ := by
  have search : p.scope ≠ .control := by
    rw [refines.scope]
    decide
  exact (sendable.refined h hp search filled).gather_toPairs h
    ((Criteria.required_refined c p value).trans required)

theorem Acceptance.entry?_of_accept_refined
    (followed : catalogue.accept extra limits (c.refined p value).toPairs = .ok again)
    (order : name ≠ Control.order) (sort : name ≠ Control.sort) (page : name ≠ Control.page)
    (stands : (c.refined p value).contains name = true ∨ catalogue.defaultValue? name = none) :
    again.entry? name = (Criteria.entry? (rereadSearch (c.refined p value)) name).map
      (settleEntry catalogue.rules) := by
  have search : p.scope ≠ .control := by
    rw [refines.scope]
    decide
  have gathered : gather catalogue extra (c.refined p value).toPairs = _ :=
    gather_refined h hp sendable required refines filled
  have kept : Criteria.entry? (rereadSearch (c.refined p value)) Control.page = c.entry? Control.page := by
    rw [show Control.page = Control.pageParameter.name from rfl,
      (sendable.refined h hp search filled).entry?_control dt.page_mem rfl,
      (Criteria.entry?_refined value sendable.placed hp).2.2 _ (by decide) (by decide), Criteria.set,
      Criteria.entry?_modifyFor_of_ne (name_of_isRefinedBy hp refines dt.page_mem rfl).symm]
  have found := entry?_of_accept h followed order sort page
    (Or.inr (by rw [gathered]; exact (Criteria.number?_congr kept).trans unpaged))
    (by rw [gathered, contains_rereadSearch]; exact stands)
  rwa [gathered] at found

/-- What the link leads to: the value in its final form, from the first result on. -/
theorem Acceptance.entry?_of_refined
    (followed : catalogue.accept extra limits (c.refined p value).toPairs = .ok again) :
    again.entry? p.name = some (settleEntry catalogue.rules (reread ⟨p, value⟩)) ∧
      again.offset = 0 ∧ again.searchAfter? = none := by
  have search : p.scope ≠ .control := by
    rw [refines.scope]
    decide
  have apart : ∀ q ∈ dt.definition.allParameters, q.scope = .control → p.name ≠ q.name :=
    fun q => name_of_isRefinedBy hp refines
  have refined := sendable.refined h hp search filled
  obtain ⟨offset, cursor, others⟩ := Criteria.entry?_refined value sendable.placed hp
  refine ⟨?_, ?_, ?_⟩
  · have own : Criteria.entry? (c.refined p value) p.name = some ⟨p, value⟩ := by
      rw [others _ (apart _ dt.offset_mem rfl) (apart _ dt.cursor_mem rfl)]
      exact sendable.placed.entry?_set_self hp
    rw [entry?_of_accept_refined h hp sendable required unpaged refines filled followed
        (apart _ dt.order_mem rfl) (apart _ dt.sort_mem rfl) (apart _ dt.page_mem rfl)
        (Or.inl (by rw [Criteria.contains, own]; rfl)),
      refined.entry?_rereadSearch, own, Option.map_some, Option.map_some]
  · have first : again.entry? Control.offset = _ :=
      entry?_of_accept_refined h hp sendable required unpaged refines filled followed (by decide)
        (by decide) (by decide) (Or.inl (by rw [Criteria.contains, offset]; rfl))
    have kept : Criteria.entry? (rereadSearch (c.refined p value)) Control.offset =
        some ⟨offsetParameter, String.ofList (render 0)⟩ := by
      rw [show Control.offset = offsetParameter.name from rfl,
        refined.entry?_control dt.offset_mem rfl]
      exact offset
    rw [kept, Option.map_some, settleEntry_of_control dt.offset_mem rfl] at first
    exact offset_of_get? (Nat.zero_le _) (congrArg (Option.map Entry.value) first)
  · have unbehind : again.entry? Control.searchAfter = _ :=
      entry?_of_accept_refined h hp sendable required unpaged refines filled followed (by decide)
        (by decide) (by decide) (Or.inr rfl)
    rw [refined.entry?_rereadSearch, cursor, Option.map_none, Option.map_none] at unbehind
    exact congrArg (Option.map Entry.value) unbehind

end Followed

omit h in
theorem Criteria.search_refined (placed : c.IsPlaced dt) (search : p.scope ≠ .control) :
    (c.refined p value).search = Entry.upsert p (fun _ => value) c.search := by
  have set_ : (c.set p value).IsPlaced dt := placed.modifyFor hp
  rw [refined, set, search_modifyFor rfl]
  show ((c.set p value).remove Control.searchAfter).search = _
  rw [show Control.searchAfter = cursorParameter.name from rfl, set_.remove_control dt.cursor_mem rfl,
    set, modifyFor, if_neg search]

section

variable (refines : f.IsRefinedBy p) (word : IsOwnWord p value)
include refines word

omit h word in
theorem Criteria.entry?_refined_control (placed : c.IsPlaced dt) {q : Parameter}
    (hq : q ∈ dt.definition.allParameters) (control : q.scope = .control)
    (offset : q.name ≠ Control.offset) (cursor : q.name ≠ Control.searchAfter) :
    Criteria.entry? (c.refined p value) q.name = c.entry? q.name := by
  rw [(entry?_refined value placed hp).2.2 _ offset cursor, set,
    entry?_modifyFor_of_ne (name_of_isRefinedBy hp refines hq control).symm]

theorem Acceptance.IsReadable.refined (readable : IsReadable dt catalogue c) :
    IsReadable dt catalogue (c.refined p value) := by
  have search : p.scope ≠ .control := by
    rw [refines.scope]
    decide
  have settled := isSettled_of_isOwnWord h hp refines word
  have kept : ∀ q ∈ dt.definition.allParameters, q.scope = .control → q.name ≠ Control.offset →
      q.name ≠ Control.searchAfter → Criteria.entry? (c.refined p value) q.name = c.entry? q.name :=
    fun q => Criteria.entry?_refined_control hp refines readable.placed
  have order : Criteria.entry? (c.refined p value) Control.order = none :=
    (kept _ dt.order_mem rfl (by decide) (by decide)).trans readable.ordered.1
  have sort : (c.refined p value).sort? = c.sort? :=
    Criteria.get?_congr (kept _ dt.sort_mem rfl (by decide) (by decide))
  have facets : checkFacets catalogue (c.refined p value) = checkFacets catalogue c :=
    checkFacets_congr (kept _ dt.aggregation_mem rfl (by decide) (by decide))
  have page : (c.refined p value).page? = c.page? :=
    Criteria.number?_congr (kept _ dt.page_mem rfl (by decide) (by decide))
  have sound : ∀ e ∈ (c.refined p value).search, issue? catalogue (reread e) = none := by
    rw [Criteria.search_refined hp readable.placed search]
    refine Entry.forall_upsert (P := fun e => issue? catalogue (reread e) = none) ?_ ?_ readable.sound
    · rw [reread_of_isSettled settled]
      exact settled.sound
    · intro e he same
      have listed := readable.placed.listed e (Criteria.mem_entries.mpr (Or.inl he))
      rw [DocumentType.eq_of_name listed hp same, reread_of_isSettled settled]
      exact settled.sound
  have ordered : IsOrdered dt (c.refined p value) :=
    ⟨order, fun x written => readable.ordered.2 x (sort.symm.trans written)⟩
  have filled : Text.trim value ≠ "" := trim_ne_empty_of_isSettled (e := ⟨p, value⟩) settled
  exact ⟨readable.toIsSendable.refined h hp search filled, sound, ordered,
    facets.trans readable.facets, page.trans readable.unpaged⟩

omit word in
theorem Acceptance.checkBounds_refined (accepted : catalogue.accept extra limits pairs = .ok c) :
    checkBounds limits (c.refined p value) = .ok () ↔ c.size ≤ limits.window := by
  obtain ⟨placed, -, -, -, bounds⟩ := shape_of_accept h accepted
  obtain ⟨offset, cursor, -⟩ := Criteria.entry?_refined value placed hp
  have size : (c.refined p value).size = c.size := congrArg (Option.getD · 0) (Criteria.number?_congr
    (Criteria.entry?_refined_control hp refines placed dt.size_mem rfl (by decide) (by decide)))
  have first : (c.refined p value).offset = 0 :=
    offset_of_get? (Nat.zero_le _) (congrArg (Option.map Entry.value) offset)
  have unbehind : (c.refined p value).searchAfter? = none := congrArg (Option.map Entry.value) cursor
  have sum : Number.addWord 0 c.size = c.size := by
    rw [Number.addWord, Nat.zero_add, Nat.min_eq_left (size_le c)]
  rw [checkBounds_eq_ok_iff, sizeIssue?, windowIssue?, size, first, unbehind, sum, ← sizeIssue?,
    (checkBounds_eq_ok_iff.mp bounds).1]
  simp

omit refines word in
theorem Acceptance.contains_refined (accepted : catalogue.accept extra limits pairs = .ok c)
    (keeps : KeepsRequired extra c) (free : Control.searchAfter ∉ extra) :
    ∀ name ∈ requiredNames catalogue extra, (c.refined p value).contains name = true := by
  obtain ⟨placed, -⟩ := shape_of_accept h accepted
  obtain ⟨offset, -, others⟩ := Criteria.entry?_refined value placed hp
  intro name required
  have unbehind : name ≠ Control.searchAfter := by
    rintro rfl
    have own : Control.searchAfter ∉ dt.definition.required := by
      cases dt <;> decide
    rw [mem_requiredNames, h.definition] at required
    exact required.elim own free
  by_cases first : name = Control.offset
  · rw [first, Criteria.contains, offset]
    rfl
  · by_cases own : name = p.name
    · rw [own, Criteria.contains, others _ (own ▸ first) (own ▸ unbehind), placed.entry?_set_self hp]
      rfl
    · rw [Criteria.contains, others _ first unbehind, Criteria.set, Criteria.entry?_modifyFor_of_ne own]
      exact present_of_accept h accepted keeps.1 keeps.2 name required

omit hp refines word in
theorem Acceptance.required_refined (accepted : catalogue.accept extra limits pairs = .ok c) :
    (c.refined p value).required = requiredNames catalogue extra := by
  rw [Criteria.required_refined, required_of_accept h accepted]

/-- The link is refused if a required name is gone, the cursor among them, or if a first page of this
size does not lie within the window. -/
theorem Acceptance.accept_refined_iff (accepted : catalogue.accept extra limits pairs = .ok c)
    (readable : IsReadable dt catalogue c) :
    (∃ again, catalogue.accept extra limits (c.refined p value).toPairs = .ok again) ↔
      KeepsRequired extra c ∧ Control.searchAfter ∉ extra ∧ c.size ≤ limits.window := by
  obtain ⟨-, cursor, -⟩ := Criteria.entry?_refined value readable.placed hp
  have refined := readable.refined h hp refines word
  have same : (c.refined p value).required = requiredNames catalogue extra :=
    required_refined h accepted
  have gathered := refined.gather_toPairs h same
  have completes : KeepsRequired extra c ∧ Control.searchAfter ∉ extra →
      addDefaults catalogue (rereadSearch (c.refined p value)) = rereadSearch (c.refined p value) ∧
        absent (rereadSearch (c.refined p value)) = [] := by
    rintro ⟨keeps, free⟩
    refine addDefaults_of_present same fun name required => ?_
    rw [contains_rereadSearch]
    exact contains_refined h hp accepted keeps free name required
  have needed : ∀ again, catalogue.accept extra limits (c.refined p value).toPairs = .ok again →
      KeepsRequired extra c ∧ Control.searchAfter ∉ extra := by
    intro again followed
    have order : (rereadSearch (c.refined p value)).contains Control.order = false := by
      rw [contains_rereadSearch, Criteria.contains_eq_false_iff]
      exact refined.ordered.1
    have page : (rereadSearch (c.refined p value)).contains Control.page = c.contains Control.page := by
      rw [contains_rereadSearch]
      exact congrArg Option.isSome (Criteria.entry?_refined_control hp refines readable.placed
        dt.page_mem rfl (by decide) (by decide))
    refine ⟨required_again order page same gathered followed, fun member => ?_⟩
    have required : Control.searchAfter ∈ (rereadSearch (c.refined p value)).required :=
      same ▸ mem_requiredNames.mpr (Or.inr member)
    rcases contains_of_required followed gathered required with stands | default
    · rw [contains_rereadSearch, Criteria.contains, cursor] at stands
      cases stands
    · cases default
  rw [refined.exists_accept_iff h gathered needed completes, checkBounds_refined h hp refines accepted,
    and_assoc]

/-- Under a host whose addresses are taken for addresses, criteria without escapes are accepted
unchanged. -/
theorem Acceptance.accept_refined (absolute : IsAbsolute apiHost)
    (accepted : catalogue.accept extra limits pairs = .ok c) (plain : IsPlain c)
    (keeps : KeepsRequired extra c) (free : Control.searchAfter ∉ extra)
    (small : c.size ≤ limits.window) :
    catalogue.accept extra limits (c.refined p value).toPairs = .ok (c.refined p value) := by
  have final := isFinal_of_accept h accepted absolute plain
  have readable := (isReadable_of_accept h accepted absolute.single
    fun e he isDecoded => (plain e he isDecoded).1).refined h hp refines word
  have set_ : ∀ e ∈ (c.set p value).entries, IsSettled catalogue e :=
    settled_set final.placed hp final.settled (isSettled_of_isOwnWord h hp refines word)
  have placed : ((c.set p value).remove Control.searchAfter).IsPlaced dt :=
    Criteria.IsPlaced.remove (final.placed.modifyFor hp) _
  have settled : ∀ e ∈ (c.refined p value).entries, IsSettled catalogue e :=
    settled_set placed dt.offset_mem (fun e he => set_ e (Criteria.mem_of_mem_remove he))
      (isSettled_offset h 0)
  have refined : IsFinal dt catalogue limits (c.refined p value) :=
    ⟨readable.placed, settled, readable.ordered, readable.facets, readable.unpaged,
      (checkBounds_refined h hp refines accepted).mpr small⟩
  exact accept_toPairs h refined (required_refined h accepted) (contains_refined h hp accepted keeps free)

end

end

/-! ### Links of a page -/

/-- A counted value of a page belongs to one of the catalogue's facets, and its link refines the search
by that facet's parameter. -/
theorem Catalogue.link_of_assemble {linker : Linker} {context engine : String} {q : Query}
    {response : Json} {page : ResultPage}
    (assembled : catalogue.assemble linker context engine q response = .ok page)
    {buckets : List Bucket} (shown : (name, buckets) ∈ page.facets) {b : Bucket} (counted : b ∈ buckets) :
    ∃ f ∈ catalogue.facets, f.name = name ∧ b.link = some (linker.refined f.parameter b.key).text := by
  unfold assemble at assembled
  split at assembled
  · rename_i reply _
    obtain rfl := Except.ok.inj assembled
    change (name, buckets) ∈ (reply.aggregations.map (catalogue.bucketsOf linker)).getD [] at shown
    cases aggregations : reply.aggregations with
    | none =>
      rw [aggregations] at shown
      cases shown
    | some counts =>
      rw [aggregations, Option.map_some, Option.getD_some, bucketsOf] at shown
      obtain ⟨f, hf, named⟩ := List.mem_filterMap.mp shown
      obtain ⟨found, read, same⟩ := Option.map_eq_some_iff.mp named
      obtain ⟨rfl, rfl⟩ := Prod.mk.inj same
      simp only [Facet.buckets?, bind, Option.bind_eq_some_iff, Option.some.injEq] at read
      obtain ⟨_, -, _, -, items, -, rfl⟩ := read
      obtain ⟨item, -, made⟩ := List.mem_filterMap.mp counted
      obtain ⟨key, -, rfl⟩ := Option.map_eq_some_iff.mp made
      exact ⟨f, hf, rfl, rfl⟩
  · cases assembled

/-- A counted value's link leads to the first results of a search by what the value is read as, and to
one by the value itself if that is a word of its own. It is then accepted as far as the required names
and the window allow. -/
theorem Catalogue.bucket_narrows {settings : Settings}
    (built : Service.buildCatalogue settings dt = .ok catalogue)
    (accepted : catalogue.accept extra limits pairs = .ok c) (base : Url) {context engine : String}
    {q : Query} {response : Json} {page : ResultPage}
    (assembled : catalogue.assemble (Linker.ofCriteria base c) context engine q response = .ok page)
    {buckets : List Bucket} (shown : (name, buckets) ∈ page.facets) {b : Bucket}
    (counted : b ∈ buckets) :
    ∃ f ∈ catalogue.facets, ∃ p ∈ dt.definition.allParameters, ∃ link : Url,
      f.name = name ∧ f.IsRefinedBy p ∧ link = (Linker.ofCriteria base c).refined f.parameter b.key ∧
      b.link = some link.text ∧ base.Carries link.text link.pairs ∧
      (Text.trim b.key ≠ "" → ∀ again, catalogue.accept extra limits link.pairs = .ok again →
        again.values f.parameter = (settleEntry catalogue.rules (reread ⟨p, b.key⟩)).elements ∧
          again.offset = 0 ∧ again.searchAfter? = none) ∧
      (IsOwnWord p b.key →
        (∀ again, catalogue.accept extra limits link.pairs = .ok again →
          again.values f.parameter = [b.key]) ∧
        (',' ∉ settings.apiHost.toList → IsUnescaped c →
          ((∃ again, catalogue.accept extra limits link.pairs = .ok again) ↔
            KeepsRequired extra c ∧ Control.searchAfter ∉ extra ∧ c.size ≤ limits.window))) := by
  have h := Service.isFor_of_buildCatalogue built
  have sendable := isSendable_of_accept h accepted
  have required := required_of_accept h accepted
  obtain ⟨-, -, -, unpaged, -⟩ := shape_of_accept h accepted
  have offset := contains_of_accept h accepted (offset_required h extra) (by decide) (by decide)
  obtain ⟨f, hf, named, link⟩ := link_of_assemble assembled shown counted
  obtain ⟨p, hp, refines⟩ :=
    DocumentType.exists_isRefinedBy (show f ∈ dt.definition.facets from h.definition ▸ hf)
  have search : p.scope ≠ .control := by
    rw [refines.scope]
    decide
  have carried := Linker.pairs_refined b.key sendable.placed hp base search offset
  have leads : Text.trim b.key ≠ "" → ∀ again,
      catalogue.accept extra limits (c.refined p b.key).toPairs = .ok again →
      again.values p.name = (settleEntry catalogue.rules (reread ⟨p, b.key⟩)).elements ∧
        again.offset = 0 ∧ again.searchAfter? = none := by
    intro filled again followed
    obtain ⟨found, first, unbehind⟩ :=
      entry?_of_refined h hp sendable required unpaged refines filled followed
    rw [Criteria.values, found]
    exact ⟨rfl, first, unbehind⟩
  refine ⟨f, hf, p, hp, _, named, refines, rfl, link, Url.carries_text ⟨_, rfl⟩, ?_⟩
  rw [← refines.name, carried]
  refine ⟨leads, fun word => ⟨fun again followed => ?_, fun single unescaped => ?_⟩⟩
  · have settled := isSettled_of_isOwnWord h hp refines word
    obtain ⟨found, -⟩ := leads (trim_ne_empty_of_isSettled (e := ⟨p, b.key⟩) settled) again followed
    rw [found, reread_of_isSettled settled, settled.settled, elements_of_isOwnWord refines word]
  · exact accept_refined_iff h hp refines word accepted (isReadable_of_accept h accepted single unescaped)

/-! ### Tickets by assignee -/

def countedAssignees : Json :=
  .obj [("hits", .obj [("total", .nat 3)]),
    ("aggregations", .obj [("assignee", .obj [("assignee", .obj [("buckets",
      .arr [.obj [("key", .str "kari"), ("doc_count", .nat 2)],
        .obj [("key", .str "Hansen, Kari"), ("doc_count", .nat 1)]])])])])]

theorem exists_assigneePage :
    ∃ catalogue c page again, Service.buildCatalogue Settings.forTesting .ticket = .ok catalogue ∧
      catalogue.accept [] {} [] = .ok c ∧ IsUnescaped c ∧ c.size = 15 ∧
      catalogue.assemble (Linker.ofCriteria .ofTickets c) "" "" (catalogue.compile c []) countedAssignees =
        .ok page ∧
      page.facets.map (fun facet => (facet.1, facet.2.map (·.key))) =
        [("assignee", ["kari", "Hansen, Kari"])] ∧
      catalogue.accept [] {} ((Linker.ofCriteria .ofTickets c).refined "assignee" "Hansen, Kari").pairs =
        .ok again ∧
      again.values "assignee" = ["Hansen", "Kari"] := by
  have evaluated : passes (Service.buildCatalogue Settings.forTesting .ticket) (fun catalogue =>
      passes (catalogue.accept [] {} []) fun c =>
        passes (catalogue.assemble (Linker.ofCriteria .ofTickets c) "" "" (catalogue.compile c [])
          countedAssignees) (fun page =>
            decide (IsUnescaped c ∧ c.size = 15 ∧
              page.facets.map (fun facet => (facet.1, facet.2.map (·.key))) =
                [("assignee", ["kari", "Hansen, Kari"])])) &&
        passes (catalogue.accept [] {}
          ((Linker.ofCriteria .ofTickets c).refined "assignee" "Hansen, Kari").pairs) fun again =>
            decide (again.values "assignee" = ["Hansen", "Kari"])) = true := by
    rw [Service.buildCatalogue_eq]
    decide +kernel
  obtain ⟨catalogue, built, outcome⟩ := exists_of_passes evaluated
  obtain ⟨c, accepted, outcome⟩ := exists_of_passes outcome
  obtain ⟨first, second⟩ := Bool.and_eq_true_iff.mp outcome
  obtain ⟨page, assembled, found⟩ := exists_of_passes first
  obtain ⟨again, followed, elements⟩ := exists_of_passes second
  obtain ⟨unescaped, size, keys⟩ := of_decide_eq_true found
  exact ⟨catalogue, c, page, again, built, accepted, unescaped, size, assembled, keys, followed,
    of_decide_eq_true elements⟩

theorem bucket_narrows_kari :
    ∃ catalogue c page buckets, ∃ b ∈ buckets, ∃ link : Url, ∃ again,
      Service.buildCatalogue Settings.forTesting .ticket = .ok catalogue ∧
      catalogue.accept [] {} [] = .ok c ∧
      catalogue.assemble (Linker.ofCriteria .ofTickets c) "" "" (catalogue.compile c []) countedAssignees =
        .ok page ∧
      ("assignee", buckets) ∈ page.facets ∧ b.key = "kari" ∧
      link = (Linker.ofCriteria .ofTickets c).refined "assignee" "kari" ∧ b.link = some link.text ∧
      catalogue.accept [] {} link.pairs = .ok again ∧ again.values "assignee" = ["kari"] ∧
      again.offset = 0 ∧ again.searchAfter? = none := by
  obtain ⟨catalogue, c, page, -, built, accepted, unescaped, size, assembled, keys, -, -⟩ :=
    exists_assigneePage
  obtain ⟨⟨name, buckets⟩, facets, same⟩ := List.map_eq_singleton_iff.mp keys
  obtain ⟨rfl, counted⟩ := Prod.mk.inj same
  obtain ⟨b, rest, rfl, key, -⟩ := List.map_eq_cons_iff.mp counted
  have shown : ("assignee", b :: rest) ∈ page.facets := facets ▸ List.mem_singleton_self _
  obtain ⟨f, hf, p, hp, link, named, refines, made, text, -, leads, own⟩ :=
    Catalogue.bucket_narrows built accepted .ofTickets assembled shown List.mem_cons_self
  have h := Service.isFor_of_buildCatalogue built
  -- The facet of this name is refined by a parameter that neither decodes nor expands its values.
  have plain : ∀ f ∈ DocumentType.ticket.definition.facets, f.name = "assignee" →
      f.parameter = "assignee" ∧ ∀ p ∈ DocumentType.ticket.definition.allParameters,
        p.name = f.parameter → p.decoded = false ∧ p.uriPrefix = none := by
    decide
  obtain ⟨parameter, regular⟩ := plain f (h.definition ▸ hf) named
  obtain ⟨undecoded, noAddress⟩ := regular p hp refines.name
  have word : IsOwnWord p b.key := by
    rw [key]
    refine ⟨by decide, by decide, by decide, fun isDecoded => ?_, fun address => ?_⟩
    · rw [undecoded] at isDecoded
      cases isDecoded
    · exact absurd noAddress address
  obtain ⟨narrows, accepts⟩ := own word
  obtain ⟨again, followed⟩ := (accepts Settings.isAbsolute_forTesting.single unescaped).mpr
    ⟨keepsRequired_nil c, List.not_mem_nil, by rw [size]; decide⟩
  have filled : Text.trim b.key ≠ "" := by
    rw [key]
    decide
  obtain ⟨-, first, unbehind⟩ := leads filled again followed
  rw [parameter, key] at made
  refine ⟨catalogue, c, page, b :: rest, b, List.mem_cons_self, link, again, built, accepted, assembled,
    shown, key, made, text, followed, ?_, first, unbehind⟩
  rw [← parameter, narrows again followed, key]

/-- The link of an assignee with a comma leads to the tickets of two others. -/
theorem bucket_splits :
    ∃ catalogue c page buckets, ∃ b ∈ buckets, ∃ link : Url, ∃ again,
      Service.buildCatalogue Settings.forTesting .ticket = .ok catalogue ∧
      catalogue.accept [] {} [] = .ok c ∧
      catalogue.assemble (Linker.ofCriteria .ofTickets c) "" "" (catalogue.compile c []) countedAssignees =
        .ok page ∧
      ("assignee", buckets) ∈ page.facets ∧ b.key = "Hansen, Kari" ∧
      link = (Linker.ofCriteria .ofTickets c).refined "assignee" "Hansen, Kari" ∧
      b.link = some link.text ∧
      catalogue.accept [] {} link.pairs = .ok again ∧ again.values "assignee" = ["Hansen", "Kari"] := by
  obtain ⟨catalogue, c, page, again, built, accepted, -, -, assembled, keys, followed, elements⟩ :=
    exists_assigneePage
  obtain ⟨⟨name, buckets⟩, facets, same⟩ := List.map_eq_singleton_iff.mp keys
  obtain ⟨rfl, counted⟩ := Prod.mk.inj same
  obtain ⟨first, rest, rfl, -, counted⟩ := List.map_eq_cons_iff.mp counted
  obtain ⟨b, none_, rfl, key, -⟩ := List.map_eq_cons_iff.mp counted
  have member : b ∈ first :: b :: none_ := List.mem_cons_of_mem _ List.mem_cons_self
  have shown : ("assignee", first :: b :: none_) ∈ page.facets := facets ▸ List.mem_singleton_self _
  obtain ⟨f, hf, named, text⟩ := Catalogue.link_of_assemble assembled shown member
  have h := Service.isFor_of_buildCatalogue built
  have parameter : ∀ f ∈ DocumentType.ticket.definition.facets, f.name = "assignee" →
      f.parameter = "assignee" := by
    decide
  rw [parameter f (h.definition ▸ hf) named, key] at text
  exact ⟨catalogue, c, page, _, b, member, _, again, built, accepted, assembled, shown, key, rfl, text,
    followed, elements⟩

end FacetSearch
