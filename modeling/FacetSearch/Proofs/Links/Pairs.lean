import FacetSearch.Linker
import FacetSearch.Proofs.Acceptance.Positions
import FacetSearch.Proofs.Text.Trimming

/-!
# What links carry

A link is read as the pairs that it was made of, and its text is that of no other pairs. They are the
pairs of criteria: with another offset, without one, or continued behind a cursor.
-/

namespace FacetSearch

open Control (offsetParameter)
open Number.Decimal (render)
open Text (startsWith)

def Url.pairs (u : Url) : List (String × String) := Text.Form.decode (u.query.getD "")

theorem Url.pairs_withPairs (u : Url) (pairs : List (String × String)) :
    (u.withPairs pairs).pairs = pairs := by
  have text : (u.withPairs pairs).query.getD "" = Text.Form.encode pairs := by
    cases pairs with
    | nil =>
      unfold Url.withPairs
      rw [if_pos (by rfl)]
      split
      · rfl
      · rfl
    | cons pair rest =>
      rw [Url.query_withPairs u (List.cons_ne_nil pair rest), Option.getD_some]
  rw [Url.pairs, text, Text.Form.decode_encode]

/-! ### The text of a link -/

namespace Url

section

variable (u : Url) {sent other : List (String × String)}

theorem withPairs_eq (some_ : sent ≠ []) :
    u.withPairs sent = { u with query := some (Text.Form.encode sent) } := by
  rw [withPairs, if_neg (by simpa using some_)]

/-- The pairs stand behind a question mark, between the text of the address and its fragment. -/
theorem text_withPairs (some_ : sent ≠ []) : (u.withPairs sent).text =
    { u with query := none, fragment := none }.text ++ "?" ++ Text.Form.encode sent ++
      (u.fragment.map ("#" ++ ·)).getD "" := by
  rw [u.withPairs_eq some_, text, text]
  simp only [Option.map_some, Option.map_none, Option.getD_some, Option.getD_none, String.append_empty,
    String.append_assoc]
  rfl

theorem length_authorityText_le {kept cut : String} (path : u.path = .plain (kept ++ cut)) :
    { u with query := none, path := .plain kept }.authorityText.length ≤ u.authorityText.length := by
  have marked : startsWith "//" kept = true → startsWith "//" u.path.text = true := by
    rw [path]
    exact startsWith_append
  unfold authorityText
  cases u.authority with
  | some a => exact Nat.le_refl _
  | none =>
    simp only
    split
    · rename_i slashes
      rw [if_pos (marked slashes)]
    · exact Nat.zero_le _

theorem length_text_stripped_le {kept cut : String} (path : u.path = .plain (kept ++ cut)) :
    { u with query := none, path := .plain kept }.text.length ≤ { u with query := none }.text.length := by
  have authority := u.length_authorityText_le path
  have own : { u with query := none }.authorityText = u.authorityText := rfl
  rw [text, text, own, path]
  simp only [String.length_append, UrlPath.text]
  omega

theorem length_text_nil_le : (u.withPairs []).text.length ≤ { u with query := none }.text.length := by
  unfold withPairs
  rw [if_pos (by rfl)]
  split
  · rename_i shown path _
    obtain ⟨copies, -, parted⟩ := Text.exists_trimEnd ' ' shown
    have whole : shown = Text.trimEnd ' ' shown ++ String.ofList copies := by
      rw [String.ext_iff, parted, String.toList_append, String.toList_ofList]
    exact u.length_text_stripped_le (path.trans (congrArg _ whole))
  · exact Nat.le_refl _

-- Without pairs there is no question mark either, and blanks at the end of the path are dropped, so the
-- text is not cut at the mark but told apart by its length.
theorem length_text_nil_lt (some_ : sent ≠ []) :
    (u.withPairs []).text.length < (u.withPairs sent).text.length := by
  refine (u.length_text_nil_le).trans_lt ?_
  rw [u.withPairs_eq some_, text, text]
  simp only [String.length_append, Option.map_some, Option.map_none, Option.getD_some, Option.getD_none,
    authorityText, show "?".length = 1 from rfl, String.length_empty]
  omega

/-- Two links on one address with the same text have the same pairs. -/
theorem text_withPairs_inj : (u.withPairs sent).text = (u.withPairs other).text ↔ sent = other := by
  refine ⟨fun same => ?_, fun same => same ▸ rfl⟩
  by_cases first : sent = []
  · by_cases second : other = []
    · rw [first, second]
    · have longer := u.length_text_nil_lt second
      rw [← first, same] at longer
      exact absurd longer (Nat.lt_irrefl _)
  · by_cases second : other = []
    · have longer := u.length_text_nil_lt first
      rw [← second, same] at longer
      exact absurd longer (Nat.lt_irrefl _)
    · rw [u.text_withPairs first, u.text_withPairs second, String.append_left_inj,
        String.append_right_inj] at same
      rw [← Text.Form.decode_encode sent, same, Text.Form.decode_encode]

end

/-- The text is that of the address with these pairs on it, and with no others. -/
def Carries (base : Url) (text : String) (pairs : List (String × String)) : Prop :=
  ∀ sent, text = (base.withPairs sent).text ↔ sent = pairs

theorem carries_text {base link : Url} (made : ∃ sent, link = base.withPairs sent) :
    base.Carries link.text link.pairs := by
  obtain ⟨sent, rfl⟩ := made
  intro other
  rw [pairs_withPairs, text_withPairs_inj]
  exact eq_comm

end Url

def PageLinks.all (links : PageLinks) : List Url :=
  links.self :: links.next.toList ++ links.previous.toList ++ links.continuation.toList

theorem Linker.exists_of_mem_all {l : Linker} {w : Window} {hits : Nat} {last : Option (List Json)}
    {link : Url} (shown : link ∈ (l.links w hits last).all) : ∃ pairs, link = l.base.withPairs pairs := by
  have continued : ∀ link ∈ (l.continuation w hits last).toList, ∃ pairs, link = l.base.withPairs pairs := by
    intro link member
    unfold continuation at member
    split at member
    · split at member
      · exact ⟨_, List.mem_singleton.mp member⟩
      · cases member
    · cases member
  have moved : ∀ {offset : Option Nat}, ∀ link ∈ (offset.map l.atOffset).toList,
      ∃ pairs, link = l.base.withPairs pairs := by
    intro offset link member
    obtain ⟨n, -, rfl⟩ := Option.map_eq_some_iff.mp (Option.mem_toList.mp member)
    exact ⟨_, rfl⟩
  unfold links at shown
  split at shown
  · rcases List.mem_cons.mp shown with rfl | shown
    · exact ⟨_, rfl⟩
    · exact continued link shown
  · simp only [PageLinks.all, List.cons_append, List.mem_cons, List.mem_append] at shown
    rcases shown with rfl | (shown | shown) | shown
    · exact ⟨_, rfl⟩
    · exact moved link shown
    · exact moved link shown
    · split at shown
      · exact continued link shown
      · cases shown

theorem Linker.carries_of_mem_all {base : Url} {c : Criteria} {w : Window} {hits : Nat}
    {last : Option (List Json)} {link : Url} (shown : link ∈ ((ofCriteria base c).links w hits last).all) :
    base.Carries link.text link.pairs :=
  Url.carries_text (exists_of_mem_all shown)

/-! ### The pairs of a link -/

/-- A cursor is read as the sort values that its text is read as, if there is one at all. -/
theorem Cursor.decode?_encode {values : List Json} {value : Json} {rest : List Json}
    (read : Json.parse? (Json.arr values).text = some (.arr (value :: rest))) :
    Cursor.decode? (Cursor.encode ⟨values⟩) = some ⟨value :: rest⟩ := by
  rw [decode?, encode, Text.Base64.decode?_encode, Option.bind_eq_bind, Option.bind_some,
    Text.Utf8.text?_bytes, Option.bind_eq_bind, Option.bind_some, read]
  rfl

namespace Linker

variable {dt : DocumentType} {c : Criteria} {p : Parameter} {value : String}

theorem isContinued_iff (base : Url) :
    (ofCriteria base c).isContinued = true ↔ c.searchAfter?.isSome = true := by
  have pairs : ∀ es : List Entry, (es.map fun e => (e.name, e.value)).any (·.1 == Control.searchAfter) =
      es.any (·.name == Control.searchAfter) := by
    intro es
    rw [List.any_map]
    rfl
  rw [isContinued, ofCriteria, Criteria.toPairs, pairs, Criteria.searchAfter?, Criteria.get?,
    Option.isSome_map, Criteria.entry?, List.find?_isSome, List.any_eq_true]
  constructor
  · rintro ⟨e, he, same⟩
    exact ⟨e, List.mem_append.mpr (List.mem_append.mp he).symm, same⟩
  · rintro ⟨e, he, same⟩
    exact ⟨e, List.mem_append.mpr (List.mem_append.mp he).symm, same⟩

theorem links_of_first (base : Url) (first : c.searchAfter? = none) (w : Window) (hits : Nat)
    (last : Option (List Json)) : (ofCriteria base c).links w hits last =
      { self := (ofCriteria base c).atOffset w.offset
        next := w.next?.map (ofCriteria base c).atOffset
        previous := w.previous?.map (ofCriteria base c).atOffset
        continuation := if w.next?.isSome then (ofCriteria base c).continuation w hits last
          else none } := by
  rw [links, if_neg]
  rw [isContinued_iff, first]
  exact Bool.false_ne_true

theorem links_of_cursor (base : Url) (cursor : c.searchAfter?.isSome = true) (w : Window) (hits : Nat)
    (last : Option (List Json)) : (ofCriteria base c).links w hits last =
      { self := base.withPairs (without [Control.offset] (ofCriteria base c).pairs)
        next := none
        previous := none
        continuation := (ofCriteria base c).continuation w hits last } := by
  rw [links, if_pos ((isContinued_iff base).mpr cursor)]
  rfl

theorem replaced_map (es : List Entry) : replaced p.name value (es.map fun e => (e.name, e.value)) =
    (Entry.upsert p (fun _ => value) es).map fun e => (e.name, e.value) := by
  induction es with
  | nil => rfl
  | cons e rest ih =>
    rw [List.map_cons, replaced, Entry.upsert]
    by_cases here : e.name = p.name
    · rw [if_pos here, if_pos here, List.map_cons, ← here]
      rfl
    · rw [if_neg here, if_neg here, ih, List.map_cons]

theorem replaced_toPairs (placed : c.IsPlaced dt) (hp : p ∈ dt.definition.allParameters)
    (control : p.scope = .control) (present : c.contains p.name = true) :
    replaced p.name value c.toPairs = (c.set p value).toPairs := by
  obtain ⟨e, found⟩ := Option.isSome_iff_exists.mp present
  rw [placed.entry?_control hp control] at found
  rw [Criteria.toPairs, replaced_map, Entry.upsert_append ⟨e, Entry.named?_eq_some found⟩,
    Criteria.set, Criteria.search_modifyFor control]
  rfl

theorem without_toPairs (placed : c.IsPlaced dt) (hp : p ∈ dt.definition.allParameters)
    (control : p.scope = .control) : without [p.name] c.toPairs = (c.remove p.name).toPairs := by
  have search : c.search.filter (·.name != p.name) = c.search := by
    apply List.filter_eq_self.mpr
    intro e he
    refine bne_iff_ne.mpr fun same => ?_
    have one := DocumentType.eq_of_name (placed.listed e (Criteria.mem_entries.mpr (Or.inl he))) hp same
    exact placed.search e he (one ▸ control)
  have each : (fun pair : String × String => !([p.name].contains pair.1)) ∘
      (fun e : Entry => (e.name, e.value)) = (·.name != p.name) := by
    funext e
    simp only [Function.comp_apply, List.contains_cons, List.contains_nil, Bool.or_false, bne]
  rw [placed.remove_control hp control, without, Criteria.toPairs, List.filter_map, each,
    List.filter_append, search]
  rfl

theorem without_pair (first second : String) (pairs : List (String × String)) :
    without [first, second] pairs = without [second] (without [first] pairs) := by
  rw [without, without, without, List.filter_filter]
  apply List.filter_congr
  intro pair _
  simp [Bool.and_comm]

section

variable (base : Url) (placed : c.IsPlaced dt)
include placed

theorem pairs_atOffset (n : Nat) (present : c.contains Control.offset = true) :
    ((ofCriteria base c).atOffset n).pairs =
      (c.set offsetParameter (String.ofList (render n))).toPairs := by
  rw [atOffset, Url.pairs_withPairs, ofCriteria]
  exact replaced_toPairs placed dt.offset_mem rfl present

theorem pairs_withoutOffset : (base.withPairs (without [Control.offset]
    (ofCriteria base c).pairs)).pairs = (c.remove Control.offset).toPairs := by
  rw [Url.pairs_withPairs, ofCriteria]
  exact without_toPairs placed dt.offset_mem rfl

theorem pairs_continued (cursor : Cursor) : ((ofCriteria base c).continued cursor).pairs =
    ((c.remove Control.offset).remove Control.searchAfter).toPairs ++
      [(Control.searchAfter, cursor.encode)] := by
  rw [continued, Url.pairs_withPairs, without_pair, ofCriteria]
  have first := without_toPairs placed dt.offset_mem rfl
  have second := without_toPairs (placed.remove Control.offset) dt.cursor_mem rfl
  rw [show Control.offset = offsetParameter.name from rfl, first]
  exact congrArg (· ++ [(Control.searchAfter, cursor.encode)]) second

end

end Linker

end FacetSearch
