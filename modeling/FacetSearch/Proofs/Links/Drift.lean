import FacetSearch.Proofs.Acceptance.Rereading
import FacetSearch.Proofs.Links.SelfLink

/-!
# What a link makes of a value

A link carries the values that were accepted, and who follows it has them decoded once more. A value
without percent signs is the same after every hop; one that still holds an escape drifts.
-/

namespace FacetSearch

open Acceptance
open Control (offsetParameter)
open Number.Decimal (render)
open Text (Trimmed)

variable {dt : DocumentType} {apiHost : String} {catalogue : Catalogue} {c : Criteria} {e : Entry}
  {extra : List String} {limits : Limits} {pairs : List (String × String)} {name : String}

/-! ### Links of a page -/

def PageLinks.neighbours (links : PageLinks) : List Url :=
  links.self :: links.next.toList ++ links.previous.toList

/-- Such a link carries the pairs of criteria that differ in the offset alone. -/
theorem Linker.exists_of_mem_neighbours {base link : Url} {w : Window} {hits : Nat}
    {last : Option (List Json)} (h : catalogue.IsFor dt apiHost)
    (sendable : IsSendable dt catalogue c) (present : c.contains Control.offset = true)
    (shown : link ∈ ((ofCriteria base c).links w hits last).neighbours) :
    ∃ c', link.pairs = c'.toPairs ∧ IsSendable dt catalogue c' ∧ c.Agree c' ∧
      c'.required = c.required := by
  have moved : ∀ n, ∃ c', ((ofCriteria base c).atOffset n).pairs = c'.toPairs ∧
      IsSendable dt catalogue c' ∧ c.Agree c' ∧ c'.required = c.required := by
    intro n
    exact ⟨_, pairs_atOffset base sendable.placed n present, sendable.set h rfl (isSettled_offset h n),
      agree_set (p := offsetParameter) (Or.inl rfl) rfl c _, Criteria.required_modifyFor c _ _⟩
  cases cursor : c.searchAfter? with
  | none =>
    rw [links_of_first base cursor, PageLinks.neighbours] at shown
    rcases List.mem_append.mp shown with shown | shown
    · rcases List.mem_cons.mp shown with rfl | shown
      · exact moved w.offset
      · obtain ⟨n, -, rfl⟩ := Option.map_eq_some_iff.mp (Option.mem_toList.mp shown)
        exact moved n
    · obtain ⟨n, -, rfl⟩ := Option.map_eq_some_iff.mp (Option.mem_toList.mp shown)
      exact moved n
  | some text =>
    have isCursor : c.searchAfter?.isSome = true := by
      rw [cursor]
      rfl
    rw [links_of_cursor base isCursor] at shown
    obtain rfl := List.mem_singleton.mp shown
    exact ⟨_, pairs_withoutOffset base sendable.placed, sendable.remove dt.offset_mem rfl,
      agree_remove sendable.placed dt.offset_mem (Or.inl rfl) rfl, Criteria.required_remove c _⟩

/-! ### Values after a hop -/

namespace Acceptance

theorem entry?_after_hop (h : catalogue.IsFor dt apiHost) {again c' : Criteria}
    (sendable : IsSendable dt catalogue c') (required : c'.required = requiredNames catalogue extra)
    (member : e ∈ c'.entries) (isDecoded : e.parameter.decoded = true)
    (accepted : catalogue.accept extra limits c'.toPairs = .ok again) :
    again.entry? e.name = some (settleEntry catalogue.rules (reread e)) := by
  have listed := sendable.placed.listed e member
  have gathered : (gather catalogue extra c'.toPairs).criteria.entry? e.name = some (reread e) := by
    rw [sendable.gather_toPairs h required, sendable.entry?_rereadSearch,
      sendable.placed.entry?_of_mem member, Option.map_some]
  have apart : ∀ p ∈ dt.definition.allParameters, p.decoded = false → e.name ≠ p.name := by
    intro p hp plain same
    rw [DocumentType.eq_of_name listed hp same, plain] at isDecoded
    cases isDecoded
  have outcome := entry?_of_accept h accepted (apart _ dt.order_mem rfl) (apart _ dt.sort_mem rfl)
    (apart _ dt.page_mem rfl) (Or.inl (apart _ dt.offset_mem rfl))
    (Or.inl (by rw [Criteria.contains, gathered]; rfl))
  rw [outcome, gathered, Option.map_some]

/-- An accepted value that is trimmed and has nothing to decode is the final form of what is read
again. -/
theorem settleEntry_reread_of_plain (h : catalogue.IsFor dt apiHost)
    (accepted : catalogue.accept extra limits pairs = .ok c) (member : e ∈ c.entries)
    (isDecoded : e.parameter.decoded = true)
    (absolute : e.parameter.uriPrefix ≠ none → IsAbsolute apiHost) (unescaped : '%' ∉ e.value.toList)
    (trimmed : Trimmed e.value) : settleEntry catalogue.rules (reread e) = e := by
  have same : reread e = e := by
    rw [reread, show Text.trim e.value = e.value from trimmed, decoded_eq_self unescaped]
  rw [same]
  cases address : e.parameter.uriPrefix with
  | none =>
    obtain ⟨placed, -⟩ := shape_of_accept h accepted
    exact settleEntry_of_plain (placed.listed e member) isDecoded address
  | some path =>
    have host := absolute (by rw [address]; exact Option.some_ne_none path)
    obtain ⟨e', listed, -, -, rfl⟩ := origin_of_accept h accepted e member
    rw [settleEntry_parameter] at address
    exact (isSettled_settleEntry_address h listed host address ⟨unescaped, trimmed⟩).settled

end Acceptance

/-- Who follows the link to a page or to one of its neighbours gets each decoded value in the final
form of what one more decoding makes of it. A trimmed value without percent signs stays as it is, an
identifier at least under a host whose addresses are taken for addresses. -/
theorem Catalogue.get?_of_neighbour {settings : Settings}
    (built : Service.buildCatalogue settings dt = .ok catalogue)
    (accepted : catalogue.accept extra limits pairs = .ok c) (member : e ∈ c.entries)
    (isDecoded : e.parameter.decoded = true) (base : Url) (w : Window) (hits : Nat)
    (last : Option (List Json)) {link : Url} {again : Criteria}
    (shown : link ∈ ((Linker.ofCriteria base c).links w hits last).neighbours)
    (followed : catalogue.accept extra limits link.pairs = .ok again) :
    again.get? e.name = some (settleEntry catalogue.rules (reread e)).value ∧
    ((e.parameter.uriPrefix ≠ none → IsAbsolute settings.apiHost) → '%' ∉ e.value.toList →
      Trimmed e.value → again.get? e.name = some e.value) := by
  have h := Service.isFor_of_buildCatalogue built
  have sendable := isSendable_of_accept h accepted
  have offset := contains_of_accept h accepted (offset_required h extra) (by decide) (by decide)
  obtain ⟨c', carried, sendable', agree, required⟩ :=
    Linker.exists_of_mem_neighbours h sendable offset shown
  -- A decoded entry belongs to the query, which the link leaves alone.
  have inSearch : e ∈ c.search := by
    refine (Criteria.mem_entries.mp member).resolve_right fun control => ?_
    exact DocumentType.scope_of_decoded (sendable.placed.listed e member) isDecoded
      (sendable.placed.control e control)
  have member' : e ∈ c'.entries := Criteria.mem_entries.mpr (Or.inl (agree.search ▸ inSearch))
  rw [carried] at followed
  have outcome := entry?_after_hop h sendable' (required.trans (required_of_accept h accepted)) member'
    isDecoded followed
  refine ⟨congrArg (Option.map Entry.value) outcome, fun absolute unescaped trimmed => ?_⟩
  rw [settleEntry_reread_of_plain h accepted member isDecoded absolute unescaped trimmed] at outcome
  exact congrArg (Option.map Entry.value) outcome

/-! ### Tickets of one publication -/

theorem exists_ofPublication :
    ∃ catalogue, Service.buildCatalogue Settings.forTesting .ticket = .ok catalogue ∧
    (∃ c, catalogue.accept [] {} [("publicationId", "7")] = .ok c ∧ IsPlain c ∧ c.searchAfter? = none ∧
      ∃ e ∈ c.entries, e.parameter.decoded = true ∧ e.value = "https://api.test/publication/7") ∧
    ∃ c again, catalogue.accept [] {} [("publicationId", "https://p.test/a%252Fb")] = .ok c ∧
      catalogue.accept [] {} ((Linker.ofCriteria .ofTickets c).links ⟨c.offset, c.size, 1⟩ 1 none).self.pairs =
        .ok again ∧
      c.get? "publicationId" = some "https://p.test/a%2Fb" ∧
      again.get? "publicationId" = some "https://p.test/a/b" := by
  have evaluated : passes (Service.buildCatalogue Settings.forTesting .ticket) (fun catalogue =>
      passes (catalogue.accept [] {} [("publicationId", "7")]) (fun c =>
        decide (IsPlain c ∧ c.searchAfter? = none ∧ ∃ e ∈ c.entries,
          e.parameter.decoded = true ∧ e.value = "https://api.test/publication/7")) &&
      passes (catalogue.accept [] {} [("publicationId", "https://p.test/a%252Fb")]) fun c =>
        passes (catalogue.accept [] {} ((Linker.ofCriteria .ofTickets c).links ⟨c.offset, c.size, 1⟩ 1
          none).self.pairs) fun again =>
          decide (c.get? "publicationId" = some "https://p.test/a%2Fb" ∧
            again.get? "publicationId" = some "https://p.test/a/b")) = true := by
    rw [Service.buildCatalogue_eq]
    decide +kernel
  obtain ⟨catalogue, built, outcome⟩ := exists_of_passes evaluated
  obtain ⟨first, second⟩ := Bool.and_eq_true_iff.mp outcome
  obtain ⟨c, accepted, found⟩ := exists_of_passes first
  obtain ⟨c', accepted', next⟩ := exists_of_passes second
  obtain ⟨again, followed, found'⟩ := exists_of_passes next
  exact ⟨catalogue, built, ⟨c, accepted, of_decide_eq_true found⟩, c', again, accepted', followed,
    of_decide_eq_true found'⟩

/-- The address that a publication's number was turned into is not changed again. -/
theorem get?_of_neighbour_publication :
    ∃ catalogue c again e, Service.buildCatalogue Settings.forTesting .ticket = .ok catalogue ∧
      catalogue.accept [] {} [("publicationId", "7")] = .ok c ∧ e ∈ c.entries ∧
      e.parameter.decoded = true ∧ catalogue.accept [] {}
        ((Linker.ofCriteria .ofTickets c).links ⟨c.offset, c.size, 1⟩ 1 none).self.pairs = .ok again ∧
      again.get? e.name = some "https://api.test/publication/7" := by
  obtain ⟨catalogue, built, ⟨c, accepted, plain, cursor, e, member, isDecoded, value⟩, -⟩ :=
    exists_ofPublication
  have absolute := Settings.isAbsolute_forTesting
  obtain ⟨again, followed⟩ := (selfLink_of_none (Service.isFor_of_buildCatalogue built) absolute accepted
    plain .ofTickets c.size 1 1 none cursor).1.mpr (keepsRequired_nil c)
  obtain ⟨-, kept⟩ := Catalogue.get?_of_neighbour built accepted member isDecoded .ofTickets
    ⟨c.offset, c.size, 1⟩ 1 none List.mem_cons_self followed
  have stands := kept (fun _ => absolute) (plain e member isDecoded).1 (plain e member isDecoded).2
  rw [value] at stands
  exact ⟨catalogue, c, again, e, built, accepted, member, isDecoded, followed, stands⟩

/-- An address with an escape in it loses the escape on its way through the page's own link. -/
theorem get?_of_neighbour_escaped :
    ∃ catalogue c again, Service.buildCatalogue Settings.forTesting .ticket = .ok catalogue ∧
      catalogue.accept [] {} [("publicationId", "https://p.test/a%252Fb")] = .ok c ∧
      catalogue.accept [] {}
        ((Linker.ofCriteria .ofTickets c).links ⟨c.offset, c.size, 1⟩ 1 none).self.pairs = .ok again ∧
      c.get? "publicationId" = some "https://p.test/a%2Fb" ∧
      again.get? "publicationId" = some "https://p.test/a/b" := by
  obtain ⟨catalogue, built, -, c, again, accepted, followed, before, after⟩ := exists_ofPublication
  exact ⟨catalogue, c, again, built, accepted, followed, before, after⟩

end FacetSearch
