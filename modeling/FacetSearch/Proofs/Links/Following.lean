import FacetSearch.Proofs.Acceptance.Rereading
import FacetSearch.Proofs.Json.Values
import FacetSearch.Proofs.Links.SelfLink
import FacetSearch.Proofs.Query.Semantics
import FacetSearch.ResultPage

/-!
# Following the links of a page

Who follows a link of a page asks for the same records at another place. Such a request is refused only
if a required name is gone, or if the next page lies beyond the window that offsets may reach.
-/

namespace FacetSearch

open Acceptance
open Control (offsetParameter cursorParameter)
open Criteria (Agree)
open Number.Decimal (render)

variable {dt : DocumentType} {apiHost : String} {catalogue : Catalogue} {c sent : Criteria}
  {extra : List String} {limits : Limits} {pairs pairs' : List (String × String)} {cursor : Cursor}

/-! ### Accepting another place -/

namespace Acceptance

theorem keepsRequired_of_accept {again : Criteria} (readable : IsReadable dt catalogue c)
    (agree : c.Agree sent) (required : sent.required = requiredNames catalogue extra)
    (read : gather catalogue extra pairs = ⟨rereadSearch sent, []⟩)
    (followed : catalogue.accept extra limits pairs = .ok again) : KeepsRequired extra c := by
  have order : (rereadSearch sent).contains Control.order = false := by
    rw [contains_rereadSearch, contains_of_ne agree (Criteria.not_positional (by decide) (by decide))]
    exact Criteria.contains_eq_false_iff.mpr readable.ordered.1
  have page : (rereadSearch sent).contains Control.page = c.contains Control.page := by
    rw [contains_rereadSearch, contains_of_ne agree (Criteria.not_positional (by decide) (by decide))]
  exact required_again order page required read followed

section

variable (h : catalogue.IsFor dt apiHost) (accepted : catalogue.accept extra limits pairs = .ok c)
  (readable : IsReadable dt catalogue c)
include h accepted readable

/-- Another offset is accepted where its page ends within the window. -/
theorem accept_atOffset_iff (first : c.searchAfter? = none) {n : Nat} (small : n ≤ Number.maxWord) :
    (∃ again, catalogue.accept extra limits
      (c.set offsetParameter (String.ofList (render n))).toPairs = .ok again) ↔
      KeepsRequired extra c ∧ Number.addWord n c.size ≤ limits.window := by
  have agree := agree_set (p := offsetParameter) (Or.inl rfl) rfl c (String.ofList (render n))
  have sendable := readable.toIsSendable.set h rfl (isSettled_offset h n)
  have stands : (c.set offsetParameter (String.ofList (render n))).get? Control.offset =
      some (String.ofList (render n)) := readable.placed.get?_set_self dt.offset_mem
  have others : ∀ name, name ≠ Control.offset →
      Criteria.entry? (c.set offsetParameter (String.ofList (render n))) name = c.entry? name := by
    intro name other
    rw [Criteria.set, Criteria.entry?_modifyFor_of_ne other]
  have required : (c.set offsetParameter (String.ofList (render n))).required =
      requiredNames catalogue extra := by
    rw [Criteria.set, Criteria.required_modifyFor, required_of_accept h accepted]
  generalize c.set offsetParameter (String.ofList (render n)) = moved at *
  have gathered := sendable.gather_toPairs h required
  have completes : KeepsRequired extra c → addDefaults catalogue (rereadSearch moved) =
      rereadSearch moved ∧ absent (rereadSearch moved) = [] := by
    intro keeps
    refine addDefaults_of_present required fun name hn => ?_
    rw [contains_rereadSearch]
    by_cases offset : name = Control.offset
    · rw [offset]
      exact Criteria.contains_iff.mpr ⟨_, stands⟩
    · rw [Criteria.contains, others name offset]
      exact present_of_accept h accepted keeps.1 keeps.2 name hn
  have bounds : checkBounds limits moved = .ok () ↔ Number.addWord n c.size ≤ limits.window := by
    have unbehind : moved.searchAfter? = none :=
      (Criteria.get?_congr (others Control.searchAfter (by decide))).trans first
    have size := (checkBounds_eq_ok_iff.mp (shape_of_accept h accepted).2.2.2.2).1
    rw [checkBounds_eq_ok_iff, sizeIssue?_of_agree agree, size, windowIssue?, offset_of_get? small stands,
      unbehind, ← agree.size]
    simp
  rw [(readable.of_agree agree sendable).exists_accept_iff h gathered
    (fun again => keepsRequired_of_accept readable agree required gathered) completes, bounds]

/-- Behind a cursor no offset is needed, and the bounds hold as on the page itself. -/
theorem accept_behind_iff (sendable : IsSendable dt catalogue sent) (agree : c.Agree sent)
    (required : sent.required = requiredNames catalogue extra)
    (missing : sent.entry? Control.offset = none) (cursor : sent.searchAfter?.isSome = true)
    (read : gather catalogue extra pairs' = ⟨rereadSearch sent, []⟩) :
    (∃ again, catalogue.accept extra limits pairs' = .ok again) ↔ KeepsRequired extra c := by
  have settled : IsSettled catalogue ⟨offsetParameter, "0"⟩ := render_zero ▸ isSettled_offset h 0
  have restarted := sendable.merge_of_absent h rfl settled missing
  have agree' := agree.trans (agree_merge (p := offsetParameter) (Or.inl rfl) rfl sent "0")
  have completes : KeepsRequired extra c → addDefaults catalogue (rereadSearch sent) =
      rereadSearch (sent.merge offsetParameter "0") ∧
        absent (rereadSearch (sent.merge offsetParameter "0")) = [] := by
    intro keeps
    have present : ∀ name ∈ requiredNames catalogue extra, name ≠ Control.offset →
        (rereadSearch sent).contains name = true := by
      intro name hn other
      rw [contains_rereadSearch]
      by_cases isCursor : name = Control.searchAfter
      · rw [isCursor, Criteria.contains, ← Option.isSome_map (f := Entry.value)]
        exact cursor
      · rw [contains_of_ne agree (Criteria.not_positional other isCursor)]
        exact present_of_accept h accepted keeps.1 keeps.2 name hn
    have lacks : (rereadSearch sent).contains Control.offset = false := by
      rw [contains_rereadSearch]
      exact Criteria.contains_eq_false_iff.mpr missing
    exact addDefaults_of_offset h sendable.placed_rereadSearch required lacks present
  have bounds : checkBounds limits (sent.merge offsetParameter "0") = .ok () := by
    refine checkBounds_of_cursor agree' ?_ (shape_of_accept h accepted).2.2.2.2
    have kept : (sent.merge offsetParameter "0").searchAfter? = sent.searchAfter? :=
      Criteria.get?_modifyFor_of_ne (by decide)
    rw [kept]
    exact cursor
  rw [(readable.of_agree agree' restarted).exists_accept_iff h read
    (fun again => keepsRequired_of_accept readable agree required read) completes, bounds]
  exact and_iff_left rfl

theorem accept_withoutOffset_iff (cursor : c.searchAfter?.isSome = true) :
    (∃ again, catalogue.accept extra limits (c.remove Control.offset).toPairs = .ok again) ↔
      KeepsRequired extra c := by
  have sendable : IsSendable dt catalogue (c.remove Control.offset) :=
    readable.toIsSendable.remove dt.offset_mem rfl
  have required := (Criteria.required_remove c Control.offset).trans (required_of_accept h accepted)
  have kept : (c.remove Control.offset).searchAfter? = c.searchAfter? :=
    Criteria.get?_remove_of_ne (by decide)
  exact accept_behind_iff h accepted readable sendable
    (agree_remove readable.placed dt.offset_mem (Or.inl rfl) rfl) required
    (readable.placed.entry?_remove_self _) (by rwa [kept])
    (sendable.gather_toPairs h required)

theorem accept_continued_iff (decodes : (Cursor.decode? cursor.encode).isSome = true) :
    (∃ again, catalogue.accept extra limits
      (((c.remove Control.offset).remove Control.searchAfter).toPairs ++
        [(Control.searchAfter, cursor.encode)]) = .ok again) ↔ KeepsRequired extra c := by
  have sendable : IsSendable dt catalogue ((c.remove Control.offset).remove Control.searchAfter) :=
    (readable.toIsSendable.remove dt.offset_mem rfl).remove dt.cursor_mem rfl
  have required : ((c.remove Control.offset).remove Control.searchAfter).required =
      requiredNames catalogue extra := by
    rw [Criteria.required_remove, Criteria.required_remove, required_of_accept h accepted]
  have settled : IsSettled catalogue ⟨cursorParameter, cursor.encode⟩ := isSettled_cursor h decodes
  have fresh := cursor_fresh readable.placed
  have read := sendable.gather_toPairs_append h required rfl settled fresh
  refine accept_behind_iff h accepted readable
    (sendable.merge_of_absent h rfl settled (cursor_absent readable.placed))
    (agree_behind readable.placed cursor) ?_ (offset_absent readable.placed cursor) ?_ read
  · rw [Criteria.merge, Criteria.required_modifyFor, required]
  · exact Option.isSome_of_mem (searchAfter?_behind readable.placed cursor)

end

end Acceptance

/-! ### Pages of a reply -/

theorem exists_of_mapM_some {α β : Type} {f : α → Option β} {xs : List α} {ys : List β} {y : β}
    (read : xs.mapM f = some ys) (member : y ∈ ys) : ∃ x ∈ xs, f x = some y := by
  induction xs generalizing ys with
  | nil =>
    obtain rfl := Option.some.inj read
    cases member
  | cons x xs ih =>
    rw [List.mapM_cons] at read
    obtain ⟨first, here, read⟩ := Option.bind_eq_some_iff.mp read
    obtain ⟨rest, others, read⟩ := Option.bind_eq_some_iff.mp read
    obtain rfl := Option.some.inj read
    rcases List.mem_cons.mp member with rfl | member
    · exact ⟨x, List.mem_cons_self, here⟩
    · obtain ⟨z, hz, same⟩ := ih others member
      exact ⟨z, List.mem_cons_of_mem x hz, same⟩

namespace EngineReply

variable {response value : Json} {n : Nat} {hit : Hit}

theorem fits_sort_of_readHit (fits : Json.Fits n value) (read : readHit value = some hit)
    {values : List Json} (sorted : hit.sort = some values) : Json.Fits n (.arr values) := by
  obtain ⟨fields, record, read⟩ := Option.bind_eq_some_iff.mp read
  split at read
  · rename_i source sort
    obtain ⟨listed, optional, read⟩ := Option.bind_eq_some_iff.mp read
    obtain rfl := Option.some.inj read
    simp only at sorted
    subst sorted
    unfold Json.optional? at optional
    split at optional
    · cases optional
    · cases optional
    · rename_i found _
      obtain ⟨items, isArray, same⟩ := Option.map_eq_some_iff.mp optional
      obtain rfl := Option.some.inj same
      have own : Json.Fits n found := fits.record? record (by simp)
      cases found with
      | arr items => exact Option.some.inj isArray ▸ own
      | null | bool | int | float | str | obj => cases isArray
  · cases read

theorem fits_sort_of_readHits (fits : Json.Fits n value) {total : Option Nat} {hits : List Hit}
    (read : readHits value = some (total, hits)) (found : hit ∈ hits) {values : List Json}
    (sorted : hit.sort = some values) : Json.Fits n (.arr values) := by
  obtain ⟨fields, record, read⟩ := Option.bind_eq_some_iff.mp read
  split at read
  · rename_i count listed
    obtain ⟨number, -, read⟩ := Option.bind_eq_some_iff.mp read
    cases listed with
    | none =>
      obtain ⟨-, rfl⟩ := Prod.mk.inj (Option.some.inj read)
      cases found
    | some array =>
      obtain ⟨each, items, read⟩ := Option.bind_eq_some_iff.mp read
      obtain ⟨-, rfl⟩ := Prod.mk.inj (Option.some.inj read)
      obtain ⟨members, isArray, items⟩ := Option.bind_eq_some_iff.mp items
      have own : Json.Fits n array := fits.record? record (by simp)
      obtain ⟨member, inArray, read⟩ := exists_of_mapM_some items found
      exact fits_sort_of_readHit (own.items? isArray inArray) read sorted
  · cases read

theorem fits_sort {reply : EngineReply} (fits : Json.Fits n response)
    (read : ofJson? response = some reply) (found : hit ∈ reply.hits) {values : List Json}
    (sorted : hit.sort = some values) : Json.Fits n (.arr values) := by
  obtain ⟨fields, record, read⟩ := Option.bind_eq_some_iff.mp read
  split at read
  · rename_i took hits aggregations
    obtain ⟨time, -, read⟩ := Option.bind_eq_some_iff.mp read
    obtain ⟨⟨total, shown⟩, hitsRead, read⟩ := Option.bind_eq_some_iff.mp read
    obtain rfl := Option.some.inj read
    have own : Json.Fits n hits := fits.record? record (by simp)
    exact fits_sort_of_readHits own hitsRead found sorted
  · cases read

end EngineReply

theorem Cursor.isSome_decode?_encode {value : Json} {values : List Json}
    (fits : Json.Fits Json.Parser.depthLimit (.arr (value :: values))) :
    (Cursor.decode? (Cursor.encode ⟨value :: values⟩)).isSome = true := by
  have read : Json.parse? (Json.arr (value :: values)).text =
      some (.arr (value.reread :: Json.rereadItems values)) := Json.parse?_text fits
  rw [Cursor.decode?_encode read]
  rfl

theorem Linker.exists_of_continuation {l : Linker} {w : Window} {hits : Nat}
    {last : Option (List Json)} {link : Url} (shown : l.continuation w hits last = some link) :
    ∃ value values, last = some (value :: values) ∧ link = l.continued ⟨value :: values⟩ := by
  unfold continuation at shown
  split at shown
  · obtain ⟨-, same⟩ := Option.ite_none_right_eq_some.mp shown
    exact ⟨_, _, rfl, (Option.some.inj same).symm⟩
  · cases shown

theorem Catalogue.links_of_assemble {linker : Linker} {context engine : String} {q : Query}
    {response : Json} {page : ResultPage}
    (assembled : catalogue.assemble linker context engine q response = .ok page) :
    ∃ reply, EngineReply.ofJson? response = some reply ∧ ∃ links, links =
        linker.links (windowOf q reply.totalHits) reply.hits.length (reply.hits.getLast?.bind (·.sort)) ∧
      page.link = links.self.text ∧ page.next = links.next.map Url.text ∧
      page.previous = links.previous.map Url.text ∧
      page.continuation = links.continuation.map Url.text := by
  unfold assemble at assembled
  split at assembled
  · rename_i reply read
    obtain rfl := Except.ok.inj assembled
    exact ⟨reply, read, _, rfl, rfl, rfl, rfl, rfl⟩
  · cases assembled

theorem Catalogue.windowOf_of_first (first : c.searchAfter? = none) (promoted : List String)
    (access : Access) (total : Nat) : windowOf ((catalogue.compile c promoted).under access) total =
      ⟨c.offset, c.size, total⟩ := by
  rw [windowOf, Query.under, catalogue.after_of_first first]
  rfl

section

variable (h : catalogue.IsFor dt apiHost) (accepted : catalogue.accept extra limits pairs = .ok c)
  (readable : IsReadable dt catalogue c) (base : Url) {w : Window} {hits : Nat}
  {last : Option (List Json)}
include h accepted readable

theorem Acceptance.accept_link_atOffset_iff (first : c.searchAfter? = none) {n : Nat}
    (small : n ≤ Number.maxWord) :
    (∃ again, catalogue.accept extra limits ((Linker.ofCriteria base c).atOffset n).pairs = .ok again) ↔
      KeepsRequired extra c ∧ Number.addWord n c.size ≤ limits.window := by
  have offset := contains_of_accept h accepted (offset_required h extra) (by decide) (by decide)
  rw [Linker.pairs_atOffset base readable.placed n offset]
  exact accept_atOffset_iff h accepted readable first small

/-- The page itself ends within the window, and so do all pages before it. -/
theorem Acceptance.accept_link_before_iff (first : c.searchAfter? = none) {n : Nat} (before : n ≤ c.offset) :
    (∃ again, catalogue.accept extra limits ((Linker.ofCriteria base c).atOffset n).pairs = .ok again) ↔
      KeepsRequired extra c := by
  have within := (checkBounds_eq_ok_iff.mp (shape_of_accept h accepted).2.2.2.2).2
  rw [windowIssue?, first] at within
  simp only [Option.isNone_none, true_and, ite_eq_right_iff, reduceCtorEq, imp_false, not_lt] at within
  rw [accept_link_atOffset_iff h accepted readable base first (before.trans (offset_le c))]
  refine and_iff_left (le_trans ?_ within)
  rw [Number.addWord, Number.addWord]
  exact min_le_min_right _ (by omega)

theorem Acceptance.accept_link_continuation_iff (cursors : ∀ value values, last = some (value :: values) →
      (Cursor.decode? (Cursor.encode ⟨value :: values⟩)).isSome = true) {link : Url}
    (shown : (Linker.ofCriteria base c).continuation w hits last = some link) :
    (∃ again, catalogue.accept extra limits link.pairs = .ok again) ↔ KeepsRequired extra c := by
  obtain ⟨value, values, isLast, rfl⟩ := Linker.exists_of_continuation shown
  rw [Linker.pairs_continued base readable.placed]
  exact accept_continued_iff h accepted readable (cursors value values isLast)

theorem Acceptance.links_of_first_accepted (first : c.searchAfter? = none) (offset : w.offset = c.offset)
    (size : w.size = c.size) (cursors : ∀ value values, last = some (value :: values) →
      (Cursor.decode? (Cursor.encode ⟨value :: values⟩)).isSome = true) :
    let links := (Linker.ofCriteria base c).links w hits last
    (∀ link ∈ links.self :: links.previous.toList ++ links.continuation.toList,
      (∃ again, catalogue.accept extra limits link.pairs = .ok again) ↔ KeepsRequired extra c) ∧
    ∀ link ∈ links.next, (∃ again, catalogue.accept extra limits link.pairs = .ok again) ↔
      KeepsRequired extra c ∧
        Number.addWord (Number.addWord c.offset c.size) c.size ≤ limits.window := by
  rw [Linker.links_of_first base first]
  refine ⟨fun link shown => ?_, fun link shown => ?_⟩
  · rcases List.mem_append.mp shown with shown | shown
    · rcases List.mem_cons.mp shown with rfl | shown
      · exact accept_link_before_iff h accepted readable base first offset.le
      · obtain ⟨n, before, rfl⟩ := Option.map_eq_some_iff.mp (Option.mem_toList.mp shown)
        obtain ⟨-, sum⟩ := Window.previous?_eq_some_iff.mp before
        exact accept_link_before_iff h accepted readable base first (by omega)
    · obtain ⟨-, behind⟩ := Option.ite_none_right_eq_some.mp (Option.mem_toList.mp shown)
      exact accept_link_continuation_iff h accepted readable base cursors behind
  · obtain ⟨n, after, rfl⟩ := Option.map_eq_some_iff.mp shown
    obtain ⟨-, same⟩ := Option.ite_none_right_eq_some.mp after
    obtain rfl := Option.some.inj same
    rw [offset, size]
    exact accept_link_atOffset_iff h accepted readable base first (Nat.min_le_right _ _)

theorem Acceptance.links_of_cursor_accepted (cursor : c.searchAfter?.isSome = true)
    (cursors : ∀ value values, last = some (value :: values) →
      (Cursor.decode? (Cursor.encode ⟨value :: values⟩)).isSome = true) :
    let links := (Linker.ofCriteria base c).links w hits last
    links.next = none ∧ ∀ link ∈ links.self :: links.previous.toList ++ links.continuation.toList,
      (∃ again, catalogue.accept extra limits link.pairs = .ok again) ↔ KeepsRequired extra c := by
  rw [Linker.links_of_cursor base cursor]
  refine ⟨rfl, fun link shown => ?_⟩
  rcases List.mem_cons.mp shown with rfl | shown
  · rw [Linker.pairs_withoutOffset base readable.placed]
    exact accept_withoutOffset_iff h accepted readable cursor
  · exact accept_link_continuation_iff h accepted readable base cursors (Option.mem_toList.mp shown)

end

/-- The links of a page are those at its place among the answer's results, each with a text that no other
pairs have. Every one is accepted as far as the required names allow, and the next page's if besides that
page ends within the window. -/
theorem Catalogue.links_accepted {settings : Settings}
    (built : Service.buildCatalogue settings dt = .ok catalogue) (single : ',' ∉ settings.apiHost.toList)
    (accepted : catalogue.accept extra limits pairs = .ok c) (unescaped : IsUnescaped c) (base : Url)
    (promoted : List String) (access : Access) {context engine body : String} {response : Json}
    {page : ResultPage} (received : Json.parse? body = some response)
    (assembled : catalogue.assemble (Linker.ofCriteria base c) context engine
      ((catalogue.compile c promoted).under access) response = .ok page) :
    ∃ reply, EngineReply.ofJson? response = some reply ∧ ∃ links, links =
        (Linker.ofCriteria base c).links
          (windowOf ((catalogue.compile c promoted).under access) reply.totalHits) reply.hits.length
          (reply.hits.getLast?.bind (·.sort)) ∧
      page.link = links.self.text ∧ page.next = links.next.map Url.text ∧
      page.previous = links.previous.map Url.text ∧
      page.continuation = links.continuation.map Url.text ∧
      (∀ link ∈ links.all, base.Carries link.text link.pairs) ∧
      (∀ link ∈ links.self :: links.previous.toList ++ links.continuation.toList,
        (∃ again, catalogue.accept extra limits link.pairs = .ok again) ↔ KeepsRequired extra c) ∧
      ∀ link ∈ links.next, (∃ again, catalogue.accept extra limits link.pairs = .ok again) ↔
        KeepsRequired extra c ∧
          Number.addWord (Number.addWord c.offset c.size) c.size ≤ limits.window := by
  have h := Service.isFor_of_buildCatalogue built
  have readable := isReadable_of_accept h accepted single unescaped
  obtain ⟨reply, read, links, made, self, next, previous, continuation⟩ := links_of_assemble assembled
  refine ⟨reply, read, links, made, self, next, previous, continuation, ?_⟩
  subst made
  refine ⟨fun link shown => Linker.carries_of_mem_all shown, ?_⟩
  have cursors : ∀ value values, reply.hits.getLast?.bind (·.sort) = some (value :: values) →
      (Cursor.decode? (Cursor.encode ⟨value :: values⟩)).isSome = true := by
    intro value values last
    obtain ⟨hit, isLast, sorted⟩ := Option.bind_eq_some_iff.mp last
    exact Cursor.isSome_decode?_encode (EngineReply.fits_sort (Json.fits_of_parse? received) read
      (List.mem_of_getLast? isLast) sorted)
  cases cursor : c.searchAfter? with
  | none =>
    rw [windowOf_of_first cursor]
    exact links_of_first_accepted h accepted readable base cursor rfl rfl cursors
  | some text =>
    obtain ⟨none_, all⟩ :=
      links_of_cursor_accepted h accepted readable base (Option.isSome_of_mem cursor) cursors
    exact ⟨all, fun link shown => absurd (none_ ▸ shown) (Option.not_mem_none link)⟩

/-! ### Links of pages of tickets -/

def secondOfThree : String :=
  "\x7b\"hits\":\x7b\"total\":3,\"hits\":[\x7b\"sort\":[\"2025-03-01\",\"b\"]\x7d]\x7d\x7d"

def manyTickets : Json := .obj [("hits", .obj [("total", .nat 20000)])]

def RefusesLink (catalogue : Catalogue) (extra : List String) (pairs : List (String × String))
    (shown : ResultPage → Option String) (offset : Nat) : Prop :=
  ∃ c page, catalogue.accept extra {} pairs = .ok c ∧
    catalogue.assemble (Linker.ofCriteria .ofTickets c) "" "" (catalogue.compile c []) manyTickets =
      .ok page ∧
    shown page = some ((Linker.ofCriteria .ofTickets c).atOffset offset).text ∧
    ∀ again, catalogue.accept extra {} ((Linker.ofCriteria .ofTickets c).atOffset offset).pairs ≠
      .ok again

def refusesLink (catalogue : Catalogue) (extra : List String) (pairs : List (String × String))
    (shown : ResultPage → Option String) (offset : Nat) : Bool :=
  passes (catalogue.accept extra {} pairs) fun c =>
    passes (catalogue.assemble (Linker.ofCriteria .ofTickets c) "" "" (catalogue.compile c [])
      manyTickets) (fun page => decide
        (shown page = some ((Linker.ofCriteria .ofTickets c).atOffset offset).text)) &&
    !passes (catalogue.accept extra {} ((Linker.ofCriteria .ofTickets c).atOffset offset).pairs)
      fun _ => true

theorem refusesLink_eq_true {shown : ResultPage → Option String} {offset : Nat}
    (found : refusesLink catalogue extra pairs shown offset = true) :
    RefusesLink catalogue extra pairs shown offset := by
  obtain ⟨c, accepted, outcome⟩ := exists_of_passes found
  obtain ⟨first, second⟩ := Bool.and_eq_true_iff.mp outcome
  obtain ⟨page, assembled, found⟩ := exists_of_passes first
  refine ⟨c, page, accepted, assembled, of_decide_eq_true found, fun again followed => ?_⟩
  rw [followed] at second
  cases second

theorem exists_ticketPages : ∃ catalogue,
    Service.buildCatalogue Settings.forTesting .ticket = .ok catalogue ∧
    (∃ c response page, catalogue.accept [] {} [("from", "1"), ("size", "1")] = .ok c ∧
      Json.parse? secondOfThree = some response ∧
      catalogue.assemble (Linker.ofCriteria .ofTickets c) "" "" (catalogue.compile c []) response =
        .ok page ∧ IsUnescaped c ∧ page.next.isSome = true ∧ page.previous.isSome = true ∧
        page.continuation.isSome = true ∧ c.offset = 1 ∧ c.size = 1) ∧
    RefusesLink catalogue [] [("from", "9990"), ("size", "10")] ResultPage.next 10000 ∧
    RefusesLink catalogue [Control.page] [("page", "3"), ("size", "1")] (some ·.link) 3 ∧
    RefusesLink catalogue [] [("publicationId", "%252C")] (some ·.link) 0 := by
  have evaluated : passes (Service.buildCatalogue Settings.forTesting .ticket) (fun catalogue =>
      passes (catalogue.accept [] {} [("from", "1"), ("size", "1")]) (fun c =>
        (Json.parse? secondOfThree).any fun response =>
          passes (catalogue.assemble (Linker.ofCriteria .ofTickets c) "" "" (catalogue.compile c [])
            response) fun page => decide (IsUnescaped c ∧ page.next.isSome = true ∧
              page.previous.isSome = true ∧ page.continuation.isSome = true ∧ c.offset = 1 ∧
              c.size = 1)) &&
      (refusesLink catalogue [] [("from", "9990"), ("size", "10")] ResultPage.next 10000 &&
      (refusesLink catalogue [Control.page] [("page", "3"), ("size", "1")] (some ·.link) 3 &&
      refusesLink catalogue [] [("publicationId", "%252C")] (some ·.link) 0))) = true := by
    rw [Service.buildCatalogue_eq]
    decide +kernel
  obtain ⟨catalogue, built, outcome⟩ := exists_of_passes evaluated
  obtain ⟨first, others⟩ := Bool.and_eq_true_iff.mp outcome
  obtain ⟨beyond, others⟩ := Bool.and_eq_true_iff.mp others
  obtain ⟨paged, escaped⟩ := Bool.and_eq_true_iff.mp others
  obtain ⟨c, accepted, outcome⟩ := exists_of_passes first
  obtain ⟨response, received, outcome⟩ := (Option.any_eq_true _ _).mp outcome
  obtain ⟨page, assembled, found⟩ := exists_of_passes outcome
  exact ⟨catalogue, built, ⟨c, response, page, accepted, received, assembled, of_decide_eq_true found⟩,
    refusesLink_eq_true beyond, refusesLink_eq_true paged, refusesLink_eq_true escaped⟩

theorem links_accepted_secondTicket : ∃ catalogue c response page,
    Service.buildCatalogue Settings.forTesting .ticket = .ok catalogue ∧
    catalogue.accept [] {} [("from", "1"), ("size", "1")] = .ok c ∧
    Json.parse? secondOfThree = some response ∧
    catalogue.assemble (Linker.ofCriteria .ofTickets c) "" "" (catalogue.compile c []) response =
      .ok page ∧
    ∃ reply, EngineReply.ofJson? response = some reply ∧
    ∃ self next previous continuation : Url,
      (Linker.ofCriteria .ofTickets c).links (Catalogue.windowOf (catalogue.compile c []) reply.totalHits)
        reply.hits.length (reply.hits.getLast?.bind (·.sort)) =
          ⟨self, some next, some previous, some continuation⟩ ∧
      page.link = self.text ∧ page.next = some next.text ∧
      page.previous = some previous.text ∧ page.continuation = some continuation.text ∧
      ∀ link ∈ [self, next, previous, continuation],
        ∃ again, catalogue.accept [] {} link.pairs = .ok again := by
  obtain ⟨catalogue, built, ⟨c, response, page, accepted, received, assembled, unescaped, hasNext,
    hasPrevious, hasContinuation, offset, size⟩, -⟩ := exists_ticketPages
  obtain ⟨reply, read, ⟨self, _, _, _⟩, made, link, next, previous, continuation, -, others, further⟩ :=
    Catalogue.links_accepted built Settings.isAbsolute_forTesting.single accepted unescaped .ofTickets []
      .denied received assembled
  dsimp only at next previous continuation
  rw [next, Option.isSome_map] at hasNext
  rw [previous, Option.isSome_map] at hasPrevious
  rw [continuation, Option.isSome_map] at hasContinuation
  obtain ⟨after, rfl⟩ := Option.isSome_iff_exists.mp hasNext
  obtain ⟨before, rfl⟩ := Option.isSome_iff_exists.mp hasPrevious
  obtain ⟨behind, rfl⟩ := Option.isSome_iff_exists.mp hasContinuation
  have keeps := keepsRequired_nil c
  have within : Number.addWord (Number.addWord c.offset c.size) c.size ≤ ({} : Limits).window := by
    rw [offset, size]
    decide
  refine ⟨catalogue, c, response, page, built, accepted, received, assembled, reply, read, self, after,
    before, behind, made.symm, link, next, previous, continuation, ?_⟩
  intro link shown
  simp only [List.mem_cons, List.not_mem_nil, or_false] at shown
  rcases shown with rfl | rfl | rfl | rfl
  · exact (others _ (by simp)).mpr keeps
  · exact (further _ rfl).mpr ⟨keeps, within⟩
  · exact (others _ (by simp)).mpr keeps
  · exact (others _ (by simp)).mpr keeps

/-- Links that are refused: of a page at the end of the window the link to the next, and the page's own
link where a page number is required, where an escaped comma is read once more, or where the host has
commas that part an identifier. -/
theorem links_refused :
    (∃ catalogue, Service.buildCatalogue Settings.forTesting .ticket = .ok catalogue ∧
      RefusesLink catalogue [] [("from", "9990"), ("size", "10")] ResultPage.next 10000 ∧
      RefusesLink catalogue [Control.page] [("page", "3"), ("size", "1")] (some ·.link) 3 ∧
      RefusesLink catalogue [] [("publicationId", "%252C")] (some ·.link) 0) ∧
    ∃ catalogue, Service.buildCatalogue Settings.withCommas .ticket = .ok catalogue ∧
      RefusesLink catalogue [] [("publicationId", "1")] (some ·.link) 0 := by
  obtain ⟨catalogue, built, -, refused⟩ := exists_ticketPages
  have evaluated : passes (Service.buildCatalogue Settings.withCommas .ticket) (fun catalogue =>
      refusesLink catalogue [] [("publicationId", "1")] (some ·.link) 0) = true := by
    rw [Service.buildCatalogue_eq]
    decide +kernel
  obtain ⟨parted, built', parts⟩ := exists_of_passes evaluated
  exact ⟨⟨catalogue, built, refused⟩, parted, built', refusesLink_eq_true parts⟩

end FacetSearch
