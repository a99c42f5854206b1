import FacetSearch.Proofs.Acceptance.Final
import FacetSearch.Proofs.Query.Agreement

/-!
# Accepting another position

Final criteria stay final when they start at another offset or behind a cursor. A request behind a
cursor that leaves the offset out gets the first one.
-/

namespace FacetSearch.Acceptance

open Control (offsetParameter cursorParameter Positional)
open Criteria (Agree)
open Number.Decimal (render)

variable {dt : DocumentType} {apiHost : String} {catalogue : Catalogue} {c c' : Criteria}
  {extra : List String} {limits : Limits} {pairs : List (String × String)}

/-! ### Bounds -/

theorem sizeIssue?_of_agree (agree : Agree c c') : sizeIssue? limits c' = sizeIssue? limits c := by
  rw [sizeIssue?, sizeIssue?, agree.size]

theorem checkBounds_of_cursor (agree : Agree c c') (cursor : c'.searchAfter?.isSome = true)
    (bounds : checkBounds limits c = .ok ()) : checkBounds limits c' = .ok () := by
  obtain ⟨size, -⟩ := checkBounds_eq_ok_iff.mp bounds
  refine checkBounds_eq_ok_iff.mpr ⟨(sizeIssue?_of_agree agree).trans size, ?_⟩
  rw [windowIssue?, if_neg]
  intro both
  rw [Option.isNone_iff_eq_none.mp both.1] at cursor
  cases cursor

theorem checkBounds_of_offset (agree : Agree c c') (offset : c'.offset = c.offset)
    (cursor : c'.searchAfter? = c.searchAfter?) (bounds : checkBounds limits c = .ok ()) :
    checkBounds limits c' = .ok () := by
  obtain ⟨size, window⟩ := checkBounds_eq_ok_iff.mp bounds
  refine checkBounds_eq_ok_iff.mpr ⟨(sizeIssue?_of_agree agree).trans size, ?_⟩
  rw [windowIssue?, offset, cursor, ← agree.size]
  exact window

/-! ### Final criteria elsewhere -/

theorem IsFinal.of_agree (final : IsFinal dt catalogue limits c) (agree : Agree c c')
    (placed : c'.IsPlaced dt) (settled : ∀ e ∈ c'.entries, IsSettled catalogue e)
    (bounds : checkBounds limits c' = .ok ()) : IsFinal dt catalogue limits c' := by
  have free : ∀ name ∈ [Control.order, Control.sort, Control.aggregation],
      name ≠ Control.offset ∧ name ≠ Control.searchAfter := by decide
  have same : ∀ name ∈ [Control.order, Control.sort, Control.aggregation],
      c'.entry? name = c.entry? name :=
    fun name hn => (agree.entry? name
      (Criteria.not_positional (free name hn).1 (free name hn).2)).symm
  refine ⟨placed, settled, ⟨(same _ (by decide)).trans final.ordered.1, ?_⟩,
    (checkFacets_congr (same _ (by decide))).trans final.facets,
    agree.page?.symm.trans final.unpaged, bounds⟩
  intro x written
  exact final.ordered.2 x (agree.sort?.trans written)

theorem agree_set {p : Parameter} (position : Positional p.name) (search : p.scope = .control)
    (c : Criteria) (value : String) : Agree c (c.set p value) := by
  refine ⟨?_, fun name other => ?_⟩
  · rw [Criteria.set, Criteria.search_modifyFor search]
  · rw [Criteria.set, Criteria.entry?_modifyFor_of_ne]
    exact fun same => other (same ▸ position)

theorem agree_merge {p : Parameter} (position : Positional p.name) (search : p.scope = .control)
    (c : Criteria) (value : String) : Agree c (c.merge p value) := by
  refine ⟨?_, fun name other => ?_⟩
  · rw [Criteria.merge, Criteria.search_modifyFor search]
  · rw [Criteria.merge, Criteria.entry?_modifyFor_of_ne]
    exact fun same => other (same ▸ position)

theorem agree_remove {p : Parameter} (placed : c.IsPlaced dt) (hp : p ∈ dt.definition.allParameters)
    (position : Positional p.name) (control : p.scope = .control) : Agree c (c.remove p.name) := by
  refine ⟨?_, fun name other => ?_⟩
  · rw [placed.remove_control hp control]
  · rw [Criteria.entry?_remove_of_ne]
    exact fun same => other (same ▸ position)

theorem number?_le {name : String} {n : Nat} (found : c.number? name = some n) : n ≤ Number.maxWord := by
  obtain ⟨value, -, read⟩ := Option.bind_eq_some_iff.mp found
  exact Number.Decimal.le_of_read? read

theorem offset_le (c : Criteria) : c.offset ≤ Number.maxWord := by
  unfold Criteria.offset
  cases found : c.number? Control.offset with
  | none => exact Nat.zero_le _
  | some n => exact number?_le found

theorem size_le (c : Criteria) : c.size ≤ Number.maxWord := by
  unfold Criteria.size
  cases found : c.number? Control.size with
  | none => exact Nat.zero_le _
  | some n => exact number?_le found

theorem offset_of_get? {n : Nat} (small : n ≤ Number.maxWord)
    (stands : c.get? Control.offset = some (String.ofList (render n))) : c.offset = n := by
  have number : c.number? Control.offset = some n := by
    rw [Criteria.number?, stands, Option.bind_some, show Text.trim _ = _ from trimmed_render n,
      String.toList_ofList, Number.Decimal.read?_render small]
  rw [Criteria.offset, number, Option.getD_some]

theorem settled_set {p : Parameter} {value : String} (placed : c.IsPlaced dt)
    (hp : p ∈ dt.definition.allParameters) (settled : ∀ e ∈ c.entries, IsSettled catalogue e)
    (own : IsSettled catalogue ⟨p, value⟩) : ∀ e ∈ (c.set p value).entries, IsSettled catalogue e := by
  refine Criteria.forall_set settled own fun e he name => ?_
  have same := DocumentType.eq_of_name (placed.listed e he) hp name
  have changed : { e with value := value } = Entry.mk p value := by rw [same]
  rwa [changed]

theorem isFinal_set_offset (h : catalogue.IsFor dt apiHost) (final : IsFinal dt catalogue limits c) :
    IsFinal dt catalogue limits (c.set offsetParameter (String.ofList (render c.offset))) := by
  have agree := agree_set (p := offsetParameter) (Or.inl rfl) rfl c (String.ofList (render c.offset))
  have stands : (c.set offsetParameter (String.ofList (render c.offset))).get? Control.offset =
      some (String.ofList (render c.offset)) := final.placed.get?_set_self dt.offset_mem
  refine final.of_agree agree (final.placed.modifyFor dt.offset_mem)
    (settled_set final.placed dt.offset_mem final.settled (isSettled_offset h c.offset)) ?_
  · apply checkBounds_of_offset agree ?_ ?_ final.bounds
    · exact offset_of_get? (offset_le c) stands
    · exact Criteria.get?_modifyFor_of_ne (by decide)

/-! ### Leaving the offset out -/

theorem contains_of_ne {name : String} (agree : Agree c c') (other : ¬ Positional name) :
    c'.contains name = c.contains name := by
  rw [Criteria.contains, Criteria.contains, agree.entry? name other]

theorem offset_required (h : catalogue.IsFor dt apiHost) (extra : List String) :
    Control.offset ∈ requiredNames catalogue extra := by
  apply mem_requiredNames.mpr
  rw [h.definition]
  cases dt <;> exact Or.inl (by decide)

theorem absent_eq_nil (required : c.required = requiredNames catalogue extra)
    (present : ∀ name ∈ requiredNames catalogue extra, c.contains name = true) : absent c = [] := by
  apply List.filter_eq_nil_iff.mpr
  intro name hn
  rw [required] at hn
  simp [present name hn]

theorem addDefaults_of_present (required : c.required = requiredNames catalogue extra)
    (present : ∀ name ∈ requiredNames catalogue extra, c.contains name = true) :
    addDefaults catalogue c = c ∧ absent c = [] := by
  have nothing := absent_eq_nil required present
  refine ⟨?_, nothing⟩
  rw [addDefaults, nothing]
  rfl

/-- Where the offset is all that lacks, the first one is put last. -/
theorem addDefaults_of_offset (h : catalogue.IsFor dt apiHost) (placed : c.IsPlaced dt)
    (required : c.required = requiredNames catalogue extra)
    (missing : c.contains Control.offset = false)
    (present : ∀ name ∈ requiredNames catalogue extra, name ≠ Control.offset →
      c.contains name = true) :
    addDefaults catalogue c = c.merge offsetParameter "0" ∧
      absent (c.merge offsetParameter "0") = [] := by
  have only : absent c = [Control.offset] := by
    have same : absent c = (requiredNames catalogue extra).filter (· == Control.offset) := by
      rw [absent, required]
      apply List.filter_congr
      intro name hn
      by_cases offset : name = Control.offset
      · rw [offset, missing, beq_self_eq_true]
        rfl
      · rw [present name hn offset, beq_eq_false_iff_ne.mpr offset]
        rfl
    rw [same, List.filter_beq, (nodup_requiredNames catalogue extra).count,
      if_pos (offset_required h extra), List.replicate_one]
  refine ⟨?_, ?_⟩
  · rw [addDefaults, only, List.foldl_cons, List.foldl_nil, addDefault,
      show Control.offset = offsetParameter.name from rfl, h.parameter?_name dt.offset_mem]
    rfl
  · refine absent_eq_nil ((Criteria.required_modifyFor c _ _).trans required) fun name hn => ?_
    by_cases offset : name = Control.offset
    · rw [offset]
      exact Criteria.contains_iff.mpr ⟨_, placed.get?_merge_of_absent dt.offset_mem
        (Criteria.contains_eq_false_iff.mp missing)⟩
    · rw [Criteria.contains, Criteria.merge, Criteria.entry?_modifyFor_of_ne offset]
      exact present name hn offset

theorem render_zero : String.ofList (render 0) = "0" := by
  rw [Number.Decimal.render_of_lt (by decide)]
  rfl

theorem isFinal_restarted (h : catalogue.IsFor dt apiHost) (final : IsFinal dt catalogue limits c)
    (agree : Agree c c') (placed : c'.IsPlaced dt) (settled : ∀ e ∈ c'.entries, IsSettled catalogue e)
    (cursor : c'.searchAfter?.isSome = true) (missing : c'.entry? Control.offset = none) :
    IsFinal dt catalogue limits (c'.merge offsetParameter "0") := by
  have agree' := agree.trans (agree_merge (p := offsetParameter) (Or.inl rfl) rfl c' "0")
  refine final.of_agree agree' (placed.modifyFor dt.offset_mem) ?_ ?_
  · refine Criteria.forall_merge settled (render_zero ▸ isSettled_offset h 0) ?_
    intro e he same
    have found := placed.entry?_of_mem he
    rw [same, show offsetParameter.name = Control.offset from rfl, missing] at found
    cases found
  · refine checkBounds_of_cursor agree' ?_ final.bounds
    have kept : (c'.merge offsetParameter "0").searchAfter? = c'.searchAfter? :=
      Criteria.get?_modifyFor_of_ne (by decide)
    rw [kept]
    exact cursor

section

variable (h : catalogue.IsFor dt apiHost) (final : IsFinal dt catalogue limits c)
  (required : c.required = requiredNames catalogue extra)
  (present : ∀ name ∈ requiredNames catalogue extra, c.contains name = true)
include h final required present

theorem accept_withoutOffset (cursor : c.searchAfter?.isSome = true) :
    catalogue.accept extra limits (c.remove Control.offset).toPairs =
      .ok ((c.remove Control.offset).merge offsetParameter "0") := by
  have agree := agree_remove final.placed dt.offset_mem (Or.inl rfl) rfl
  have placed := final.placed.remove Control.offset
  have settled : ∀ e ∈ (c.remove Control.offset).entries, IsSettled catalogue e :=
    fun e he => final.settled e (Criteria.mem_of_mem_remove he)
  have missing := final.placed.entry?_remove_self Control.offset
  have same : (c.remove Control.offset).required = requiredNames catalogue extra :=
    (Criteria.required_remove c _).trans required
  have kept : (c.remove Control.offset).searchAfter? = c.searchAfter? :=
    Criteria.get?_remove_of_ne (by decide)
  obtain ⟨completed, nothing⟩ := addDefaults_of_offset h placed same
    (Criteria.contains_eq_false_iff.mpr missing) (by
      intro name hn other
      rw [Criteria.contains, Criteria.entry?_remove_of_ne other]
      exact present name hn)
  exact accept_of_isFinal h (gather_toPairs h placed settled same) completed nothing
    (isFinal_restarted h final agree placed settled (by rw [kept]; exact cursor) missing)

end

/-! ### Continuing behind a cursor -/

/-- The criteria that continue behind a cursor, before they have an offset again. -/
def behind (c : Criteria) (cursor : Cursor) : Criteria :=
  ((c.remove Control.offset).remove Control.searchAfter).merge cursorParameter cursor.encode

/-- The criteria of the page behind a cursor. -/
def continued (c : Criteria) (cursor : Cursor) : Criteria :=
  (behind c cursor).merge offsetParameter "0"

section

variable (placed : c.IsPlaced dt) (cursor : Cursor)
include placed

theorem isPlaced_behind : (behind c cursor).IsPlaced dt :=
  ((placed.remove Control.offset).remove Control.searchAfter).modifyFor dt.cursor_mem

theorem agree_behind : Agree c (behind c cursor) := by
  have first := agree_remove placed dt.offset_mem (Or.inl rfl) rfl
  have second := agree_remove (placed.remove Control.offset) dt.cursor_mem (Or.inr rfl) rfl
  exact (first.trans second).trans
    (agree_merge (p := cursorParameter) (Or.inr rfl) rfl _ cursor.encode)

theorem agree_continued : Agree c (continued c cursor) :=
  (agree_behind placed cursor).trans (agree_merge (p := offsetParameter) (Or.inl rfl) rfl _ "0")

theorem cursor_absent :
    Criteria.entry? ((c.remove Control.offset).remove Control.searchAfter) Control.searchAfter = none :=
  (placed.remove Control.offset).entry?_remove_self _

theorem cursor_fresh : ∀ e ∈ ((c.remove Control.offset).remove Control.searchAfter).entries,
    e.name ≠ Control.searchAfter := by
  intro e he same
  have found := ((placed.remove Control.offset).remove Control.searchAfter).entry?_of_mem he
  rw [same, cursor_absent placed] at found
  cases found

theorem offset_absent : Criteria.entry? (behind c cursor) Control.offset = none := by
  rw [behind, Criteria.merge, Criteria.entry?_modifyFor_of_ne (by decide),
    Criteria.entry?_remove_of_ne (by decide)]
  exact placed.entry?_remove_self _

theorem searchAfter?_behind : (behind c cursor).searchAfter? = some cursor.encode :=
  ((placed.remove Control.offset).remove Control.searchAfter).get?_merge_of_absent dt.cursor_mem
    (cursor_absent placed)

theorem searchAfter?_continued : (continued c cursor).searchAfter? = some cursor.encode := by
  have kept : Criteria.entry? (continued c cursor) Control.searchAfter =
      Criteria.entry? (behind c cursor) Control.searchAfter := by
    rw [continued, Criteria.merge, Criteria.entry?_modifyFor_of_ne (by decide)]
  rw [Criteria.searchAfter?, Criteria.get?, kept]
  exact searchAfter?_behind placed cursor

end

section

variable (h : catalogue.IsFor dt apiHost) (final : IsFinal dt catalogue limits c)
  (required : c.required = requiredNames catalogue extra)
  (present : ∀ name ∈ requiredNames catalogue extra, c.contains name = true) {cursor : Cursor}
  (readable : (Cursor.decode? cursor.encode).isSome = true)
include h final readable

theorem settled_behind : ∀ e ∈ (behind c cursor).entries, IsSettled catalogue e := by
  refine Criteria.forall_merge ?_ (isSettled_cursor h readable) ?_
  · exact fun e he => final.settled e (Criteria.mem_of_mem_remove (Criteria.mem_of_mem_remove he))
  · exact fun e he same => absurd same (cursor_fresh final.placed e he)

theorem isFinal_continued : IsFinal dt catalogue limits (continued c cursor) := by
  refine isFinal_restarted h final (agree_behind final.placed cursor)
    (isPlaced_behind final.placed cursor) (settled_behind h final readable) ?_
    (offset_absent final.placed cursor)
  rw [searchAfter?_behind final.placed cursor]
  rfl

include required

theorem gather_continued : gather catalogue extra
    (((c.remove Control.offset).remove Control.searchAfter).toPairs ++
      [(Control.searchAfter, cursor.encode)]) = ⟨behind c cursor, []⟩ := by
  have placed := (final.placed.remove Control.offset).remove Control.searchAfter
  have fresh := cursor_fresh final.placed
  have same : ((c.remove Control.offset).remove Control.searchAfter).required =
      requiredNames catalogue extra := by
    rw [Criteria.required_remove, Criteria.required_remove, required]
  have settled : ∀ e ∈ ((c.remove Control.offset).remove Control.searchAfter).entries,
      IsSettled catalogue e :=
    fun e he => final.settled e (Criteria.mem_of_mem_remove (Criteria.mem_of_mem_remove he))
  rw [behind]
  generalize (c.remove Control.offset).remove Control.searchAfter = rest at *
  -- The entries in the order of the link.
  have member : ∀ e, e ∈ rest.control ++ rest.search → e ∈ rest.entries :=
    fun e he => List.mem_append.mpr (List.mem_append.mp he).symm
  have each : ∀ e ∈ (rest.control ++ rest.search) ++ [⟨cursorParameter, cursor.encode⟩],
      IsSettled catalogue e := by
    intro e he
    rcases List.mem_append.mp he with he | he
    · exact settled e (member e he)
    · rw [List.mem_singleton.mp he]
      exact isSettled_cursor h readable
  have once : (((rest.control ++ rest.search) ++ [Entry.mk cursorParameter cursor.encode]).map
      Entry.name).Nodup := by
    rw [List.map_append, List.nodup_append]
    refine ⟨(List.perm_append_comm.map Entry.name).nodup_iff.mp placed.entriesOnce, by simp, ?_⟩
    intro a ha b hb
    obtain ⟨e, he, rfl⟩ := List.mem_map.mp ha
    rw [List.mem_singleton.mp hb]
    exact fresh e (member e he)
  have gathered : gather catalogue extra _ = _ := gather_settled h each once
  rw [List.map_append, sorted_append, ← same, sorted_toPairs placed] at gathered
  rw [Criteria.merge_of_absent fresh]
  exact gathered

include present

theorem accept_continued : catalogue.accept extra limits
    (((c.remove Control.offset).remove Control.searchAfter).toPairs ++
      [(Control.searchAfter, cursor.encode)]) = .ok (continued c cursor) := by
  have agree := agree_behind final.placed cursor
  have same : (behind c cursor).required = requiredNames catalogue extra := by
    rw [behind, Criteria.merge, Criteria.required_modifyFor, Criteria.required_remove,
      Criteria.required_remove, required]
  have others : ∀ name ∈ requiredNames catalogue extra, name ≠ Control.offset →
      (behind c cursor).contains name = true := by
    intro name hn other
    by_cases isCursor : name = Control.searchAfter
    · rw [isCursor]
      exact Criteria.contains_iff.mpr ⟨_, searchAfter?_behind final.placed cursor⟩
    · rw [contains_of_ne agree (Criteria.not_positional other isCursor)]
      exact present name hn
  have missing := Criteria.contains_eq_false_iff.mpr (offset_absent final.placed cursor)
  obtain ⟨completed, nothing⟩ :=
    addDefaults_of_offset h (isPlaced_behind final.placed cursor) same missing others
  exact accept_of_isFinal h (gather_continued h final required readable) completed nothing
    (isFinal_continued h final readable)

end

end FacetSearch.Acceptance
