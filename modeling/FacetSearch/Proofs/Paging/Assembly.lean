import FacetSearch.Proofs.Links.Following

/-!
# What a page says

A page shows the hits of the engine's answer as they are, and its links lead from its own place to the
places before and after it.
-/

namespace FacetSearch

open Acceptance
open Control (offsetParameter)
open Number.Decimal (render)

/-! ### Fields of an answer -/

namespace Json

variable {names : List String} {values : List (Option Json)} {v : Json}

/-- The value of a field of a record with these fields: by its name in an object, by its place in an
array. -/
def member? (names : List String) (name : String) : Json → Option Json
  | .obj fields => (Json.obj fields).get? name
  | .arr items => items[names.idxOf name]?
  | _ => none

theorem record?_eq_map (distinct : names.Nodup) (found : v.record? names = some values) :
    values = names.map (v.member? names ·) := by
  unfold record? at found
  split at found
  · exact (Option.some.inj found).symm
  · rename_i items
    obtain ⟨few, same⟩ := Option.ite_none_right_eq_some.mp found
    obtain rfl := Option.some.inj same
    refine List.ext_getElem (by simp [few]) fun k _ within => ?_
    rw [List.length_map] at within
    rw [List.getElem_map, member?, distinct.idxOf_getElem k within, List.getElem_append]
    split
    · rename_i present
      rw [List.length_map] at present
      rw [List.getElem_map, List.getElem?_eq_getElem present]
    · rename_i absent
      rw [List.length_map, not_lt] at absent
      rw [List.getElem_replicate, List.getElem?_eq_none absent]
  · cases found

theorem bind_of_optional? {α : Type} {read : Json → Option α} {value : Option Json} {outcome : Option α}
    (null : read .null = none) (found : optional? read value = some outcome) : value.bind read = outcome := by
  unfold optional? at found
  split at found
  · exact Option.some.inj found
  · exact null.trans (Option.some.inj found)
  · rename_i present _
    obtain ⟨a, own, same⟩ := Option.map_eq_some_iff.mp found
    exact own.trans same

end Json

theorem eq_map_of_mapM {α β : Type} {f : α → Option β} {g : α → β} {xs : List α} {ys : List β}
    (read : xs.mapM f = some ys) (each : ∀ x y, f x = some y → y = g x) : ys = xs.map g := by
  induction xs generalizing ys with
  | nil => exact (Option.some.inj read).symm
  | cons x xs ih =>
    rw [List.mapM_cons] at read
    obtain ⟨first, here, read⟩ := Option.bind_eq_some_iff.mp read
    obtain ⟨rest, others, read⟩ := Option.bind_eq_some_iff.mp read
    obtain rfl := Option.some.inj read
    rw [List.map_cons, each x first here, ih others]

namespace EngineReply

variable {response value : Json} {reply : EngineReply} {hit : Hit}

def about? (response : Json) (name : String) : Option Json :=
  (response.member? ["took", "hits", "aggregations"] "hits").bind (·.member? ["total", "hits"] name)

def writtenHits (response : Json) : List Json := ((about? response "hits").bind Json.items?).getD []

def sourceOf (hit : Json) : Json := (hit.member? ["_source", "sort"] "_source").getD .null

def sortOf? (hit : Json) : Option (List Json) := (hit.member? ["_source", "sort"] "sort").bind Json.items?

def lastSort? (response : Json) : Option (List Json) := (writtenHits response).getLast?.bind sortOf?

/-- What an answer with so many hits says of their total: a number, or an object with one, and if it says
nothing it has shown them all. -/
def Counts (response : Json) (hits total : Nat) : Prop :=
  match about? response "total" with
  | none | some .null => total = hits
  | some (.obj fields) => (Json.obj fields).get? "value" = some (.nat total)
  | some value => value = .nat total

theorem eq_of_readHit (read : readHit value = some hit) : hit = ⟨sourceOf value, sortOf? value⟩ := by
  obtain ⟨fields, record, read⟩ := Option.bind_eq_some_iff.mp read
  obtain rfl := Json.record?_eq_map (by decide) record
  obtain ⟨sort, optional, same⟩ := Option.bind_eq_some_iff.mp read
  obtain rfl := Option.some.inj same
  rw [← Json.bind_of_optional? rfl optional]
  rfl

theorem readTotal_eq_some {n : Nat} (read : readTotal value = some n) :
    (∃ fields, value = .obj fields ∧ (Json.obj fields).get? "value" = some (.nat n)) ∨ value = .nat n := by
  have number : ∀ {w : Json}, w.nat? = some n → w = .nat n := by
    intro w same
    unfold Json.nat? at same
    split at same
    · rw [Option.some.inj same]
      rfl
    · cases same
  rcases Option.or_eq_some_iff.mp read with own | ⟨-, inside⟩
  · exact .inr (number own)
  · obtain ⟨held, found, own⟩ := Option.bind_eq_some_iff.mp inside
    obtain rfl := number own
    cases value with
    | obj fields => exact .inl ⟨fields, rfl, found⟩
    | null | bool | int | float | str | arr => cases found

theorem counts_of_optional {total : Option Nat} {hits : Nat}
    (read : Json.optional? readTotal (about? response "total") = some total) :
    Counts response hits (total.getD hits) := by
  unfold Counts
  unfold Json.optional? at read
  split at read
  · rename_i missing
    rw [missing, ← Option.some.inj read]
    rfl
  · rename_i missing
    rw [missing, ← Option.some.inj read]
    rfl
  · rename_i value present said
    obtain ⟨n, own, same⟩ := Option.map_eq_some_iff.mp read
    rw [said, ← same]
    rcases readTotal_eq_some own with ⟨fields, rfl, held⟩ | rfl
    · exact held
    · rfl

theorem eq_of_readHits {total : Option Nat} {hits : List Hit}
    (read : readHits value = some (total, hits)) :
    hits = (((value.member? ["total", "hits"] "hits").bind Json.items?).getD []).map
        (fun hit => ⟨sourceOf hit, sortOf? hit⟩) ∧
      Json.optional? readTotal (value.member? ["total", "hits"] "total") = some total := by
  obtain ⟨fields, record, read⟩ := Option.bind_eq_some_iff.mp read
  obtain rfl := Json.record?_eq_map (by decide) record
  obtain ⟨count, counted, read⟩ := Option.bind_eq_some_iff.mp read
  have own : hits = (((value.member? ["total", "hits"] "hits").bind Json.items?).getD []).map
      (fun hit => ⟨sourceOf hit, sortOf? hit⟩) ∧ count = total := by
    cases listed : value.member? ["total", "hits"] "hits" with
    | none =>
      simp only [listed] at read
      obtain ⟨same, rfl⟩ := Prod.mk.inj (Option.some.inj read)
      exact ⟨rfl, same⟩
    | some array =>
      simp only [listed] at read
      obtain ⟨each, items, read⟩ := Option.bind_eq_some_iff.mp read
      obtain ⟨same, rfl⟩ := Prod.mk.inj (Option.some.inj read)
      obtain ⟨members, isArray, items⟩ := Option.bind_eq_some_iff.mp items
      rw [Option.bind_some, isArray]
      exact ⟨eq_map_of_mapM items fun _ _ => eq_of_readHit, same⟩
  exact ⟨own.1, own.2 ▸ counted⟩

/-- What is read of an answer is what the engine wrote. -/
theorem eq_of_ofJson? (read : ofJson? response = some reply) :
    reply.hits = (writtenHits response).map (fun hit => ⟨sourceOf hit, sortOf? hit⟩) ∧
      Counts response reply.hits.length reply.totalHits := by
  obtain ⟨fields, record, read⟩ := Option.bind_eq_some_iff.mp read
  obtain rfl := Json.record?_eq_map (by decide) record
  split at read
  · rename_i took hits aggregations same
    have isHits : response.member? _ "hits" = some hits := (List.cons.inj (List.cons.inj same).2).1
    obtain ⟨time, -, read⟩ := Option.bind_eq_some_iff.mp read
    obtain ⟨⟨total, shown⟩, hitsRead, read⟩ := Option.bind_eq_some_iff.mp read
    obtain rfl := Option.some.inj read
    obtain ⟨rfl, counted⟩ := eq_of_readHits hitsRead
    have about : ∀ name, about? response name = hits.member? ["total", "hits"] name := by
      intro name
      rw [about?, isHits, Option.bind_some]
    refine ⟨?_, counts_of_optional ?_⟩
    · rw [writtenHits, about]
    · rw [about, counted]
  · cases read

theorem getLast?_sort (read : ofJson? response = some reply) :
    reply.hits.getLast?.bind (·.sort) = lastSort? response := by
  rw [(eq_of_ofJson? read).1, List.getLast?_map, Option.bind_map]
  rfl

end EngineReply

/-! ### Addresses that differ in their place -/

namespace Url

def valuesOf (u : Url) (name : String) : List String := (u.pairs.filter (·.1 == name)).map (·.2)

def movedTo (u : Url) (offset : Nat) : Url :=
  u.withPairs (u.pairs.map fun pair =>
    if pair.1 = Control.offset then (pair.1, String.ofList (render offset)) else pair)

def continuedBy (u : Url) (token : String) : Url :=
  u.withPairs (Linker.without [Control.offset, Control.searchAfter] u.pairs ++
    [(Control.searchAfter, token)])

theorem withPairs_withPairs (u : Url) {first second : List (String × String)} (some_ : first ≠ []) :
    (u.withPairs first).withPairs second = u.withPairs second := by
  rw [u.withPairs_eq some_]
  rfl

end Url

namespace Criteria.IsPlaced

variable {dt : DocumentType} {c : Criteria}

theorem filter_entries (placed : c.IsPlaced dt) (name : String) :
    c.entries.filter (·.name == name) = (c.entry? name).toList := by
  cases found : c.entry? name with
  | none => exact List.filter_eq_nil_iff.mpr (List.find?_eq_none.mp found)
  | some e =>
    have named : e.name = name := by simpa using List.find?_some found
    refine List.perm_singleton.mp ((List.perm_ext_iff_of_nodup
      ((List.Nodup.of_map _ placed.entriesOnce).filter _) (List.nodup_singleton e)).mpr fun f => ?_)
    rw [List.mem_filter, List.mem_singleton]
    constructor
    · rintro ⟨member, same⟩
      have again := placed.entry?_of_mem member
      rw [beq_iff_eq.mp same, found] at again
      exact (Option.some.inj again).symm
    · rintro rfl
      exact ⟨List.mem_of_find?_eq_some found, beq_iff_eq.mpr named⟩

theorem values_toPairs (placed : c.IsPlaced dt) (name : String) :
    (c.toPairs.filter (·.1 == name)).map (·.2) = (c.get? name).toList := by
  have listed : ((c.toPairs.filter (·.1 == name)).map (·.2)).Perm
      ((c.entries.filter (·.name == name)).map Entry.value) := by
    rw [toPairs, List.filter_map, List.map_map]
    exact (List.perm_append_comm.filter _).map _
  rw [placed.filter_entries] at listed
  rw [get?]
  cases found : c.entry? name with
  | none =>
    rw [found] at listed
    exact List.perm_nil.mp listed
  | some e =>
    rw [found] at listed
    exact List.perm_singleton.mp listed

end Criteria.IsPlaced

namespace Linker

variable {names : List String} {name value : String} {pairs : List (String × String)}

theorem filter_without (member : name ∈ names) : (without names pairs).filter (·.1 == name) = [] := by
  refine List.filter_eq_nil_iff.mpr fun pair kept same => ?_
  have apart := (List.mem_filter.mp kept).2
  rw [beq_iff_eq.mp same] at apart
  simp [member] at apart

theorem without_replaced (member : name ∈ names) :
    without names (replaced name value pairs) = without names pairs := by
  have gone : ∀ (v : String) rest, without names ((name, v) :: rest) = without names rest := by
    intro v rest
    exact List.filter_cons_of_neg (by simp [member])
  induction pairs with
  | nil => exact gone value []
  | cons pair rest ih =>
    rw [replaced]
    by_cases here : pair.1 = name
    · rw [if_pos here, gone, ← Prod.eta pair, here, gone]
    · rw [if_neg here]
      unfold without at ih ⊢
      rw [List.filter_cons, List.filter_cons, ih]

theorem without_withoutOffset : without [Control.offset, Control.searchAfter]
    (without [Control.offset] pairs) = without [Control.offset, Control.searchAfter] pairs := by
  have again : without [Control.offset] (without [Control.offset] pairs) =
      without [Control.offset] pairs := by
    unfold without
    rw [List.filter_filter]
    simp only [Bool.and_self]
  rw [without_pair, without_pair, again]

theorem replaced_ne_nil : replaced name value pairs ≠ [] := by
  cases pairs with
  | nil => exact List.cons_ne_nil _ _
  | cons pair rest =>
    rw [replaced]
    split <;> exact List.cons_ne_nil _ _

/-- Of names that stand for one value each, one is changed in its place. -/
theorem replaced_eq_map (distinct : (pairs.map (·.1)).Nodup) (present : name ∈ pairs.map (·.1)) :
    replaced name value pairs =
      pairs.map fun pair => if pair.1 = name then (pair.1, value) else pair := by
  induction pairs with
  | nil => cases present
  | cons pair rest ih =>
    rw [List.map_cons, List.nodup_cons] at distinct
    rw [replaced, List.map_cons]
    by_cases here : pair.1 = name
    · rw [if_pos here, if_pos here, here]
      refine congrArg _ ((List.map_id _).symm.trans (List.map_congr_left fun other member => ?_))
      rw [if_neg]
      · rfl
      · intro same
        exact distinct.1 (here ▸ same ▸ List.mem_map_of_mem member)
    · rw [if_neg here, if_neg here, ih distinct.2]
      rw [List.map_cons] at present
      exact (List.mem_cons.mp present).resolve_left fun same => here same.symm

/-- A link behind a cursor is an address of the same request with the cursor for its offset. -/
theorem continued_eq (l : Linker) (cursor : Cursor) (some_ : pairs ≠ [])
    (same : without [Control.offset, Control.searchAfter] pairs =
      without [Control.offset, Control.searchAfter] l.pairs) :
    l.continued cursor = (l.base.withPairs pairs).continuedBy cursor.encode := by
  rw [continued, Url.continuedBy, Url.pairs_withPairs, Url.withPairs_withPairs _ some_, same]

theorem continued_atOffset (l : Linker) (cursor : Cursor) (n : Nat) :
    l.continued cursor = (l.atOffset n).continuedBy cursor.encode :=
  l.continued_eq cursor replaced_ne_nil (without_replaced (by decide))

/-- The link to another offset is the address of the same request moved there. -/
theorem atOffset_eq_movedTo {l : Linker} (distinct : (l.pairs.map (·.1)).Nodup)
    (present : Control.offset ∈ l.pairs.map (·.1)) (m n : Nat) :
    l.atOffset n = (l.atOffset m).movedTo n := by
  rw [Url.movedTo, atOffset, atOffset, Url.pairs_withPairs, Url.withPairs_withPairs _ replaced_ne_nil,
    replaced_eq_map distinct present, replaced_eq_map distinct present, List.map_map]
  refine congrArg _ (List.map_congr_left fun pair _ => ?_)
  rw [Function.comp_apply]
  by_cases here : pair.1 = Control.offset
  · simp only [if_pos here]
  · simp only [if_neg here]

theorem isSome_continuation_iff {l : Linker} {w : Window} {hits : Nat} {last : Option (List Json)} :
    (l.continuation w hits last).isSome = true ↔
      0 < w.size ∧ hits = w.size ∧ ∃ value values, last = some (value :: values) := by
  unfold continuation
  split
  · rename_i value values
    by_cases full : hits = w.size ∧ 0 < w.size
    · rw [if_pos full]
      exact iff_of_true rfl ⟨full.2, full.1, value, values, rfl⟩
    · rw [if_neg full]
      exact iff_of_false Bool.false_ne_true fun both => full ⟨both.2.1, both.1⟩
  · rename_i unsorted
    refine iff_of_false Bool.false_ne_true ?_
    rintro ⟨-, -, value, values, rfl⟩
    exact unsorted value values rfl

end Linker

theorem Url.valuesOf_continuedBy (u : Url) (token : String) :
    (u.continuedBy token).valuesOf Control.offset = [] ∧
      (u.continuedBy token).valuesOf Control.searchAfter = [token] := by
  unfold valuesOf
  rw [continuedBy, Url.pairs_withPairs, List.filter_append, List.filter_append,
    Linker.filter_without (by decide), Linker.filter_without (by decide)]
  exact ⟨rfl, rfl⟩

theorem Window.next?_eq {w : Window} (small : w.total ≤ Number.maxWord) : w.next? =
    if 0 < w.size ∧ w.offset + w.size < w.total then some (w.offset + w.size) else none := by
  refine Option.ext fun n => ?_
  rw [next?_eq_some_iff small, Option.ite_none_right_eq_some, Option.some.injEq]
  omega

/-! ### The place of a page -/

namespace Linker

variable {dt : DocumentType} {c : Criteria} {l : Linker} {w : Window}

section

variable (distinct : (l.pairs.map (·.1)).Nodup) (present : Control.offset ∈ l.pairs.map (·.1))
include distinct present

theorem map_next? (small : w.total ≤ Number.maxWord) : w.next?.map l.atOffset =
    if 0 < w.size ∧ w.offset + w.size < w.total then
      some ((l.atOffset w.offset).movedTo (w.offset + w.size)) else none := by
  rw [Window.next?_eq small, apply_ite (Option.map _), Option.map_some,
    atOffset_eq_movedTo distinct present w.offset (w.offset + w.size)]
  rfl

theorem map_previous? : w.previous?.map l.atOffset =
    if 0 < w.size ∧ w.size ≤ w.offset then some ((l.atOffset w.offset).movedTo (w.offset - w.size))
      else none := by
  rw [Window.previous?, apply_ite (Option.map _), Option.map_some,
    atOffset_eq_movedTo distinct present w.offset (w.offset - w.size)]
  rfl

end

section

variable (base : Url)

theorem distinct_ofCriteria (placed : c.IsPlaced dt) :
    ((ofCriteria base c).pairs.map (·.1)).Nodup := by
  rw [ofCriteria, Criteria.toPairs, List.map_map]
  exact (List.perm_append_comm.map Entry.name).nodup placed.entriesOnce

theorem mem_ofCriteria (present : c.contains name = true) :
    name ∈ (ofCriteria base c).pairs.map (·.1) := by
  obtain ⟨e, found⟩ := Option.isSome_iff_exists.mp present
  have named : e.name = name := by simpa using List.find?_some found
  rw [ofCriteria, Criteria.toPairs, List.map_map, ← named]
  exact List.mem_map_of_mem (f := Entry.name)
    (List.perm_append_comm.subset (List.mem_of_find?_eq_some found))

theorem atOffset_ofCriteria (placed : c.IsPlaced dt) (offset : c.contains Control.offset = true)
    (n : Nat) : (ofCriteria base c).atOffset n =
        base.withPairs (c.set offsetParameter (String.ofList (render n))).toPairs ∧
      ((ofCriteria base c).atOffset n).valuesOf Control.offset = [String.ofList (render n)] := by
  have placed' : (c.set offsetParameter (String.ofList (render n))).IsPlaced dt :=
    placed.modifyFor dt.offset_mem
  have given : (c.set offsetParameter (String.ofList (render n))).get? offsetParameter.name =
    some (String.ofList (render n)) := placed.get?_set_self dt.offset_mem
  refine ⟨congrArg base.withPairs (replaced_toPairs placed dt.offset_mem rfl offset), ?_⟩
  rw [Url.valuesOf, pairs_atOffset base placed n offset, placed'.values_toPairs,
    show Control.offset = offsetParameter.name from rfl, given]
  rfl

theorem withoutOffset_ofCriteria (placed : c.IsPlaced dt) {token : String}
    (cursor : c.searchAfter? = some token) :
    base.withPairs (without [Control.offset] (ofCriteria base c).pairs) =
        base.withPairs (c.remove Control.offset).toPairs ∧
      (base.withPairs (without [Control.offset] (ofCriteria base c).pairs)).valuesOf Control.offset = [] ∧
      (base.withPairs (without [Control.offset] (ofCriteria base c).pairs)).valuesOf Control.searchAfter =
        [token] := by
  have kept : (c.remove Control.offset).get? Control.searchAfter = some token := by
    rw [Criteria.get?, Criteria.entry?_remove_of_ne (by decide)]
    exact cursor
  have gone : (c.remove Control.offset).get? Control.offset = none := by
    rw [Criteria.get?, placed.entry?_remove_self, Option.map_none]
  have placed' := placed.remove Control.offset
  refine ⟨congrArg base.withPairs (without_toPairs placed dt.offset_mem rfl), ?_, ?_⟩
  · rw [Url.valuesOf, pairs_withoutOffset base placed, placed'.values_toPairs, gone]
    rfl
  · rw [Url.valuesOf, pairs_withoutOffset base placed, placed'.values_toPairs, kept]
    rfl

end

end Linker

/-! ### Pages -/

namespace ResultPage

variable {page : ResultPage} {self : Url} {size : Nat} {last : Option (List Json)}

def linkTexts (page : ResultPage) : List String :=
  page.link :: page.next.toList ++ page.previous.toList ++ page.continuation.toList

theorem linkTexts_eq {links : PageLinks} (self : page.link = links.self.text)
    (next : page.next = links.next.map Url.text) (previous : page.previous = links.previous.map Url.text)
    (continuation : page.continuation = links.continuation.map Url.text) :
    page.linkTexts = links.all.map Url.text := by
  rw [linkTexts, self, next, previous, continuation, PageLinks.all, List.map_append, List.map_append,
    List.map_cons, Option.toList_map, Option.toList_map, Option.toList_map]

/-- The page leads on from its own address behind its last hit, of which these are the sort values, where
that is allowed: by an address with a cursor for its offset, which is read as those values again if they
survive as JSON. -/
def LeadsOn (page : ResultPage) (self : Url) (allowed : Prop) (size : Nat) (last : Option (List Json)) :
    Prop :=
  (page.continuation.isSome = true ↔
    allowed ∧ page.hits.length = size ∧ ∃ value values, last = some (value :: values)) ∧
  ∀ link ∈ page.continuation, ∃ values token, last = some values ∧
    link = (self.continuedBy token).text ∧
    (self.continuedBy token).valuesOf Control.offset = [] ∧
    (self.continuedBy token).valuesOf Control.searchAfter = [token] ∧
    (Json.parse? (Json.arr values).text = some (.arr values) → Cursor.decode? token = some ⟨values⟩)

theorem leadsOn {l : Linker} {w : Window} {allowed : Prop} {guard : Bool}
    (shown : page.continuation =
      (if guard = true then l.continuation w page.hits.length last else none).map Url.text)
    (behind : ∀ cursor, l.continued cursor = self.continuedBy cursor.encode)
    (means : allowed ↔ guard = true ∧ 0 < w.size) : page.LeadsOn self allowed w.size last := by
  refine ⟨?_, fun link member => ?_⟩
  · rw [shown, means, Option.isSome_map]
    by_cases may : guard = true
    · rw [if_pos may, Linker.isSome_continuation_iff, and_iff_right may]
    · rw [if_neg may]
      exact iff_of_false Bool.false_ne_true fun all => may all.1.1
  · rw [shown] at member
    obtain ⟨u, continues, rfl⟩ := Option.map_eq_some_iff.mp member
    obtain ⟨-, continues⟩ := Option.ite_none_right_eq_some.mp continues
    obtain ⟨value, values, isLast, rfl⟩ := Linker.exists_of_continuation continues
    obtain ⟨unplaced, token⟩ := self.valuesOf_continuedBy (Cursor.encode ⟨value :: values⟩)
    exact ⟨_, _, isLast, congrArg Url.text (behind _), unplaced, token, Cursor.decode?_encode⟩

end ResultPage

namespace Catalogue

variable {dt : DocumentType} {catalogue : Catalogue} {c : Criteria} {settings : Settings}
  {extra : List String} {limits : Limits} {pairs : List (String × String)} {response : Json}
  {reply : EngineReply}

/-- The page of an answer to accepted criteria shows the answer's hits as they are, and their total, which
is a word as the engine counts. The text of a link is that of one list of pairs. The page's own address is
that of its criteria. Without a cursor the next and the previous page are at the offsets a page further,
where there are results, and a page back; the page leads on behind its last hit if there is a next page and
this one is full. A page behind a cursor has no place among the offsets, and leads on if it is full. -/
theorem assemble_faithful (built : Service.buildCatalogue settings dt = .ok catalogue)
    (accepted : catalogue.accept extra limits pairs = .ok c) (base : Url) (promoted : List String)
    (access : Access) (context engine : String) (read : EngineReply.ofJson? response = some reply)
    (small : reply.totalHits ≤ Number.maxWord) :
    ∃ page, catalogue.assemble (Linker.ofCriteria base c) context engine
        ((catalogue.compile c promoted).under access) response = .ok page ∧
      page.hits = (EngineReply.writtenHits response).map EngineReply.sourceOf ∧
      EngineReply.Counts response page.hits.length page.totalHits ∧
      (∀ text ∈ page.linkTexts, ∃ sent, base.Carries text sent) ∧
      ∃ self : Url, page.link = self.text ∧
        (c.searchAfter? = none →
          self = base.withPairs (c.set offsetParameter (String.ofList (render c.offset))).toPairs ∧
          self.valuesOf Control.offset = [String.ofList (render c.offset)] ∧
          page.next = (if 0 < c.size ∧ c.offset + c.size < page.totalHits then
            some (self.movedTo (c.offset + c.size)).text else none) ∧
          page.previous = (if 0 < c.size ∧ c.size ≤ c.offset then
            some (self.movedTo (c.offset - c.size)).text else none) ∧
          page.LeadsOn self (page.next.isSome = true) c.size (EngineReply.lastSort? response)) ∧
        ∀ token, c.searchAfter? = some token →
          self = base.withPairs (c.remove Control.offset).toPairs ∧
          self.valuesOf Control.offset = [] ∧ self.valuesOf Control.searchAfter = [token] ∧
          page.next = none ∧ page.previous = none ∧
          page.LeadsOn self (0 < c.size) c.size (EngineReply.lastSort? response) := by
  have h := Service.isFor_of_buildCatalogue built
  obtain ⟨placed, -⟩ := shape_of_accept h accepted
  have offset := contains_of_accept h accepted (offset_required h extra) (by decide) (by decide)
  obtain ⟨hits, counts⟩ := EngineReply.eq_of_ofJson? read
  have last := EngineReply.getLast?_sort read
  have assembled : catalogue.assemble (Linker.ofCriteria base c) context engine
      ((catalogue.compile c promoted).under access) response = .ok (catalogue.pageOf
        (Linker.ofCriteria base c) context ((catalogue.compile c promoted).under access) reply) := by
    rw [assemble, read]
  obtain ⟨_, read', links, made, self, next, previous, continuation⟩ := links_of_assemble assembled
  obtain rfl := Option.some.inj (read.symm.trans read')
  have shown : (reply.hits.map Hit.source).length = reply.hits.length := List.length_map _
  refine ⟨_, assembled, (congrArg (List.map Hit.source) hits).trans (List.map_map ..),
    shown ▸ counts, fun text member => ?_, links.self, self, fun first => ?_, fun token cursor => ?_⟩
  · rw [ResultPage.linkTexts_eq self next previous continuation] at member
    obtain ⟨link, among, rfl⟩ := List.mem_map.mp member
    subst made
    exact ⟨_, Linker.carries_of_mem_all among⟩
  · rw [windowOf_of_first first, last, Linker.links_of_first base first] at made
    subst made
    obtain ⟨own, place⟩ := Linker.atOffset_ofCriteria base placed offset c.offset
    have distinct := Linker.distinct_ofCriteria base placed
    have present := Linker.mem_ofCriteria base offset
    refine ⟨own, place, ?_, ?_, ResultPage.leadsOn (w := ⟨c.offset, c.size, reply.totalHits⟩)
      (shown ▸ continuation) (fun cursor => Linker.continued_atOffset _ cursor c.offset) ?_⟩
    · exact next.trans ((congrArg _ (Linker.map_next? distinct present small)).trans (apply_ite _ _ _ _))
    · exact previous.trans ((congrArg _ (Linker.map_previous? distinct present)).trans (apply_ite _ _ _ _))
    · rw [next, Option.isSome_map, Option.isSome_map]
      refine (and_iff_left_of_imp fun leads => ?_).symm
      obtain ⟨n, following⟩ := Option.isSome_iff_exists.mp leads
      exact ((Window.next?_eq_some_iff small).mp following).1
  · have isCursor : c.searchAfter?.isSome = true := Option.isSome_of_mem cursor
    rw [last, Linker.links_of_cursor base isCursor] at made
    subst made
    obtain ⟨own, unplaced, carried⟩ := Linker.withoutOffset_ofCriteria base placed cursor
    refine ⟨own, unplaced, carried, next, previous, ResultPage.leadsOn (l := Linker.ofCriteria base c)
      (w := windowOf ((catalogue.compile c promoted).under access) reply.totalHits)
      (shown ▸ continuation.trans (congrArg _ (if_pos rfl).symm)) (fun following => ?_)
      (and_iff_right rfl).symm⟩
    refine Linker.continued_eq (Linker.ofCriteria base c) following (fun none_ => ?_)
      Linker.without_withoutOffset
    rw [Url.valuesOf, Url.pairs_withPairs, none_] at carried
    cases carried

end Catalogue

def fourthOfNine : Json :=
  .obj [("hits", .obj [("total", .nat 9),
    ("hits", .arr [.obj [("_source", .str "d"), ("sort", .arr [.str "2025-03-01"])]])])]

/-- The page of the fourth of nine tickets has all links, and its cursor holds the ticket's date. -/
theorem assemble_fourthOfNine : ∃ catalogue c page token, ∃ self : Url,
    Service.buildCatalogue Settings.forTesting .ticket = .ok catalogue ∧
    catalogue.accept [] {} [("page", "3"), ("size", "1")] = .ok c ∧
    catalogue.assemble (Linker.ofCriteria .ofTickets c) "" "" (catalogue.compile c []) fourthOfNine =
      .ok page ∧
    page.hits = [.str "d"] ∧ page.totalHits = 9 ∧ page.link = self.text ∧
    page.next = some (self.movedTo 4).text ∧ page.previous = some (self.movedTo 2).text ∧
    page.continuation = some (self.continuedBy token).text ∧
    Cursor.decode? token = some ⟨[.str "2025-03-01"]⟩ := by
  obtain ⟨catalogue, built, each⟩ := exists_thirdPage
  obtain ⟨c, accepted, -, first, -, offset, size, -⟩ := each [] List.mem_cons_self
  have read : EngineReply.ofJson? fourthOfNine =
    some ⟨0, some 9, [⟨.str "d", some [.str "2025-03-01"]⟩], none⟩ := rfl
  obtain ⟨page, assembled, hits, counts, -, self, link, placed, -⟩ :=
    Catalogue.assemble_faithful built accepted .ofTickets [] .denied "" "" read (by decide)
  obtain ⟨-, -, next, previous, leads, behind⟩ := placed first
  have total : page.totalHits = 9 := by
    have same : Json.nat 9 = Json.nat page.totalHits := counts
    exact (Int.ofNat.inj (Json.int.inj same)).symm
  rw [offset, size, total, if_pos (by decide)] at next
  rw [offset, size, if_pos (by decide)] at previous
  rw [next, size, hits] at leads
  obtain ⟨shown, continues⟩ := Option.isSome_iff_exists.mp (leads.mpr ⟨rfl, rfl, _, _, rfl⟩)
  obtain ⟨values, token, last, rfl, -, -, decodes⟩ := behind shown continues
  obtain rfl : [Json.str "2025-03-01"] = values := Option.some.inj last
  have survives : Json.parse? (Json.arr [.str "2025-03-01"]).text = some (.arr [.str "2025-03-01"]) :=
    Json.parse?_text (.arr fun _ member => List.mem_singleton.mp member ▸ .str _)
  exact ⟨catalogue, c, page, token, self, built, accepted, assembled, hits, total, link, next, previous,
    continues, decodes survives⟩

end FacetSearch
