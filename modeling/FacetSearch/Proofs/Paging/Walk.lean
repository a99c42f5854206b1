import FacetSearch.Proofs.Links.SelfLink
import FacetSearch.Proofs.Paging.Index
import FacetSearch.Proofs.Query.Reading
import FacetSearch.ResultPage

/-!
# Walking through all pages

A client that follows the continuation of each page sees every record from its first page's offset on
once, in the order of the request, and comes to an end.
-/

namespace FacetSearch

open Acceptance

/-! ### Links and windows -/

variable {l : Linker} {w : Window}

theorem Linker.continuation_links (hits : Nat) (last : Option (List Json)) :
    (l.links w hits last).continuation =
      if l.isContinued = true ∨ w.next?.isSome = true then l.continuation w hits last else none := by
  rw [links]
  by_cases continued : l.isContinued = true
  · rw [if_pos continued, if_pos (Or.inl continued)]
  · rw [if_neg continued]
    simp only [or_iff_right continued]

theorem Linker.continuation_of_short {hits : Nat} {last : Option (List Json)} (short : hits < w.size) :
    l.continuation w hits last = none := by
  unfold continuation
  split
  · rw [if_neg]
    intro full
    omega
  · rfl

theorem Window.total_le_of_next? (some_ : 0 < w.size) (last : ¬ w.next?.isSome = true) :
    w.total ≤ w.offset + w.size := by
  have sum : Number.addWord w.offset w.size ≤ w.offset + w.size := Nat.min_le_left _ _
  have ends : ¬ Number.addWord w.offset w.size < w.total := by
    intro more
    apply last
    rw [next?, if_pos ⟨some_, more⟩]
    rfl
  omega

theorem exists_last {docs : List α} {k size : Nat} (sized : 1 ≤ size) (full : k + size ≤ docs.length) :
    ∃ before d after shown, docs = before ++ d :: after ∧ before.length + 1 = k + size ∧
      (docs.drop k).take size = shown ++ [d] := by
  obtain ⟨m, rfl⟩ : ∃ m, size = m + 1 := ⟨size - 1, by omega⟩
  have last : k + m < docs.length := by omega
  refine ⟨docs.take (k + m), docs[k + m], docs.drop (k + m + 1), (docs.drop k).take m, ?_, ?_, ?_⟩
  · rw [← List.drop_eq_getElem_cons last, List.take_append_drop]
  · rw [List.length_take]
    omega
  · rw [List.take_add_one, List.getElem?_drop, List.getElem?_eq_getElem last]
    rfl

/-! ### Sessions -/

/-- What stays the same while a client goes from page to page. -/
structure Session where
  catalogue : Catalogue
  limits : Limits
  access : Access
  promoted : List String
  base : Url
  answer : Json → Json

namespace Session

def query (s : Session) (c : Criteria) : Query :=
  { s.catalogue.compile c s.promoted with access := s.access }

/-- The page for a request, and the link that continues it. -/
def visit (s : Session) (pairs : List (String × String)) : Option (ResultPage × Option Url) :=
  match s.catalogue.accept [] s.limits pairs with
  | .error _ => none
  | .ok c =>
    let q := s.query c
    let linker := Linker.ofCriteria s.base c
    (EngineReply.ofJson? (s.answer q.body)).map fun reply =>
      (s.catalogue.pageOf linker ResultPage.standardContext q reply,
        (linker.links (Catalogue.windowOf q reply.totalHits) reply.hits.length
          (reply.hits.getLast?.bind (·.sort))).continuation)

/-- The pages from a request on, each reached by the continuation of the one before, if there are
fewer than `n`; a request that is refused or not answered ends in nothing. -/
def walk (s : Session) : Nat → List (String × String) → Option (List ResultPage)
  | 0, _ => none
  | n + 1, pairs =>
    match s.visit pairs with
    | none => none
    | some (page, none) => some [page]
    | some (page, some link) => (s.walk n link.pairs).map (page :: ·)

theorem assemble_of_visit {s : Session} {pairs : List (String × String)} {page : ResultPage}
    {link : Option Url} (visited : s.visit pairs = some (page, link)) (engine : String) :
    ∃ c, s.catalogue.accept [] s.limits pairs = .ok c ∧
      s.catalogue.assemble (Linker.ofCriteria s.base c) ResultPage.standardContext engine (s.query c)
        (s.answer (s.query c).body) = .ok page ∧ page.continuation = link.map Url.text ∧
      ∀ u ∈ link, s.base.Carries u.text u.pairs := by
  unfold visit at visited
  split at visited
  · cases visited
  · rename_i c accepted
    obtain ⟨reply, read, same⟩ := Option.map_eq_some_iff.mp visited
    obtain ⟨rfl, rfl⟩ := Prod.mk.inj same
    refine ⟨c, accepted, ?_, rfl, fun u continues => ?_⟩
    · rw [Catalogue.assemble, read]
    · exact Linker.carries_of_mem_all (List.mem_append_right _ (Option.mem_toList.mpr continues))

/-! ### Questions -/

def question (s : Session) (c : Criteria) : Question := Question.ofBody (s.query c).body

section

variable {dt : DocumentType} {apiHost : String} {s : Session} {c c' : Criteria}

theorem query_of_agree (h : s.catalogue.IsFor dt apiHost) (placed : c.IsPlaced dt)
    (agree : c.Agree c') : s.query c' = (s.query c).startingAt c'.offset
      ((c'.searchAfter?.bind Cursor.decode?).map (·.sortValues)) := by
  rw [query, Catalogue.compile_of_agree h placed agree]
  rfl

theorem question_of_agree (h : s.catalogue.IsFor dt apiHost) (placed : c.IsPlaced dt)
    (agree : c.Agree c') : s.question c' = s.question c := by
  rw [question, question, query_of_agree h placed agree, Question.ofBody_startingAt]

theorem size_question (c : Criteria) : (s.question c).size = c.size := Question.size_ofBody (s.query c)

theorem identifier_mem_steps (c : Criteria) : ∃ step : SortStep,
    step.field = s.catalogue.definition.identifierField ∧ step.toJson ∈ (s.question c).steps := by
  obtain ⟨step, among, identifies⟩ := s.catalogue.identifier_mem_sort c s.promoted
  refine ⟨step, identifies, ?_⟩
  rw [question, Question.steps_ofBody]
  exact List.mem_map_of_mem among

end

/-! ### One page -/

variable {Doc : Type} {ix : Index Doc} {dt : DocumentType} {apiHost : String} {s : Session}
  {c c' : Criteria} {pairs : List (String × String)} {k : Nat}

/-- The criteria show, of what `c` finds, what stands from `k` on. -/
structure IsAt (dt : DocumentType) (s : Session) (ix : Index Doc) (c c' : Criteria) (k : Nat) :
    Prop where
  agree : c.Agree c'
  final : IsFinal dt s.catalogue s.limits c'
  required : c'.required = requiredNames s.catalogue []
  present : ∀ name ∈ requiredNames s.catalogue [], c'.contains name = true
  rest : ix.rest (s.query c').body = (ix.found (s.question c)).drop k
  first : c'.searchAfter? = none → k = c'.offset

/-- The values of the records found can be printed and read again. -/
def Survives (s : Session) (ix : Index Doc) (c : Criteria) : Prop :=
  ∀ d ∈ ix.found (s.question c), Json.parse? (Json.arr (ix.values (s.question c) d)).text =
    some (.arr (ix.values (s.question c) d))

/-- Between pages: what a page shows and how it goes on. -/
inductive Shows (s : Session) (ix : Index Doc) (c c' : Criteria) (k : Nat)
    (pairs : List (String × String)) (page : ResultPage) : Prop where
  | last (complete : (ix.found (s.question c)).length ≤ k + c.size)
      (visited : s.visit pairs = some (page, none))
  | more (before after : List Doc) (d : Doc) (split : ix.found (s.question c) = before ++ d :: after)
      (full : before.length + 1 = k + c.size)
      (visited : s.visit pairs = some (page, some
        ((Linker.ofCriteria s.base c').continued ⟨ix.values (s.question c) d⟩)))

theorem values_ne_nil (c : Criteria) (d : Doc) : ix.values (s.question c) d ≠ [] := by
  obtain ⟨step, -, among⟩ := identifier_mem_steps (s := s) c
  exact List.ne_nil_of_mem (List.mem_map_of_mem among)

def lastValues (s : Session) (ix : Index Doc) (c : Criteria) (shown : List Doc) :
    Option (List Json) :=
  (shown.map (ix.hit (s.question c))).getLast?.bind (·.sort)

theorem continuation_of_full {l : Linker} {w : Window} {before : List Doc} {d : Doc}
    (full : before.length + 1 = w.size) :
    l.continuation w (before ++ [d]).length (s.lastValues ix c (before ++ [d])) =
      some (l.continued ⟨ix.values (s.question c) d⟩) := by
  have last : s.lastValues ix c (before ++ [d]) = some (ix.values (s.question c) d) := by
    rw [lastValues, List.map_append, List.map_singleton, List.getLast?_concat]
    rfl
  have some_ : ix.values (s.question c) d ≠ [] := values_ne_nil c d
  obtain ⟨value, rest, values⟩ := List.exists_cons_of_ne_nil some_
  have counted : (before ++ [d]).length = w.size ∧ 0 < w.size := by
    rw [List.length_append, List.length_singleton]
    omega
  rw [last, values, Linker.continuation, if_pos counted]

section

variable (h : s.catalogue.IsFor dt apiHost) (placed : c.IsPlaced dt)
  (answers : ∀ body, EngineReply.ofJson? (s.answer body) = some (ix.reply body))
include h placed answers

theorem visit_eq (at_ : IsAt dt s ix c c' k)
    (accepted : s.catalogue.accept [] s.limits pairs = .ok c') :
    let shown := ((ix.found (s.question c)).drop k).take c.size
    ∃ page, ∃ w : Window, page.hits = shown.map ix.source ∧ w.size = c.size ∧
      w.total = (ix.found (s.question c)).length ∧ (c'.searchAfter? = none → w.offset = k) ∧
      s.visit pairs = some (page, ((Linker.ofCriteria s.base c').links w shown.length
        (s.lastValues ix c shown)).continuation) := by
  intro shown
  have asked : Question.ofBody (s.query c').body = s.question c :=
    question_of_agree (s := s) h placed at_.agree
  have reply : ix.reply (s.query c').body =
      { took := ix.took
        total := some (ix.found (s.question c)).length
        hits := shown.map (ix.hit (s.question c))
        aggregations := ix.aggregations (s.question c) } := by
    rw [Index.reply]
    simp only [asked, size_question, at_.rest, shown]
  refine ⟨s.catalogue.pageOf (Linker.ofCriteria s.base c') ResultPage.standardContext (s.query c')
    (ix.reply (s.query c').body), Catalogue.windowOf (s.query c') (ix.found (s.question c)).length,
    ?_, at_.agree.size.symm, rfl, ?_, ?_⟩
  · rw [Catalogue.pageOf, reply, List.map_map]
    rfl
  · intro first
    have none_ : (s.query c').after = none := s.catalogue.after_of_first first s.promoted
    rw [at_.first first, Catalogue.windowOf, none_]
    rfl
  · unfold visit
    rw [accepted]
    simp only [answers, Option.map_some]
    simp only [reply, EngineReply.totalHits, Option.getD_some, List.length_map]
    rfl

/-- A page that has a continuation is full, and the continuation leads behind its last record; one
that has none shows all that is left. -/
theorem shows_of_isAt (sized : 1 ≤ c.size) (at_ : IsAt dt s ix c c' k)
    (accepted : s.catalogue.accept [] s.limits pairs = .ok c') :
    ∃ page, page.hits = (((ix.found (s.question c)).drop k).take c.size).map ix.source ∧
      Shows s ix c c' k pairs page := by
  obtain ⟨page, w, hits, size, total, offset, visited⟩ := visit_eq h placed answers at_ accepted
  refine ⟨page, hits, ?_⟩
  rw [Linker.continuation_links] at visited
  have counted : (((ix.found (s.question c)).drop k).take c.size).length =
      min c.size ((ix.found (s.question c)).length - k) := by
    rw [List.length_take, List.length_drop]
  by_cases short : (ix.found (s.question c)).length < k + c.size
  · -- Fewer records are left than a page shows.
    apply Shows.last (Nat.le_of_lt short)
    rw [visited, Linker.continuation_of_short (by omega), ite_self]
  · obtain ⟨before, d, after, shown, split, full, slice⟩ := exists_last sized (Nat.le_of_not_lt short)
    have whole : shown.length + 1 = w.size := by
      rw [slice, List.length_append, List.length_singleton] at counted
      omega
    rw [slice, continuation_of_full whole] at visited
    by_cases goesOn : (Linker.ofCriteria s.base c').isContinued = true ∨ w.next?.isSome = true
    · rw [if_pos goesOn] at visited
      exact Shows.more before after d split full visited
    · -- A page that no cursor led to is a window, and no window follows.
      rw [if_neg goesOn] at visited
      obtain ⟨plainLink, last⟩ := not_or.mp goesOn
      have first : c'.searchAfter? = none := by
        rw [Linker.isContinued_iff] at plainLink
        simpa using plainLink
      have ends := Window.total_le_of_next? (by omega) last
      rw [total, offset first, size] at ends
      exact Shows.last ends visited

/-! ### From page to page -/

omit answers in
/-- Behind the last record of a page the rest of what is found goes on. -/
theorem isAt_continued (lawful : ix.IsLawful dt.definition.identifierField)
    (survive : Survives s ix c) (at_ : IsAt dt s ix c c' k) {before after : List Doc} {d : Doc}
    (split : ix.found (s.question c) = before ++ d :: after) {cursor : Cursor}
    (behind : cursor = ⟨ix.values (s.question c) d⟩) :
    s.catalogue.accept [] s.limits ((Linker.ofCriteria s.base c').continued cursor).pairs =
      .ok (continued c' cursor) ∧ IsAt dt s ix c (continued c' cursor) (before.length + 1) := by
  have member : d ∈ ix.found (s.question c) := by
    rw [split]
    exact List.mem_append_right _ List.mem_cons_self
  have decodes : Cursor.decode? cursor.encode = some ⟨ix.values (s.question c) d⟩ := by
    have some_ : ix.values (s.question c) d ≠ [] := values_ne_nil c d
    obtain ⟨value, rest, filled⟩ := List.exists_cons_of_ne_nil some_
    have read := survive d member
    rw [filled] at read
    rw [behind, filled]
    exact Cursor.decode?_encode read
  have readable : (Cursor.decode? cursor.encode).isSome = true := by
    rw [decodes]
    rfl
  have accepted : s.catalogue.accept [] s.limits
      ((Linker.ofCriteria s.base c').continued cursor).pairs = .ok (continued c' cursor) := by
    rw [Linker.pairs_continued s.base at_.final.placed cursor]
    exact accept_continued h at_.final at_.required at_.present readable
  have agree : c.Agree (continued c' cursor) :=
    at_.agree.trans (agree_continued at_.final.placed cursor)
  refine ⟨accepted, agree, isFinal_continued h at_.final readable, required_of_accept h accepted,
    present_of_accept h accepted List.not_mem_nil (fun member => absurd member List.not_mem_nil), ?_, ?_⟩
  · have after_ : (s.query (continued c' cursor)).after = some (ix.values (s.question c) d) := by
      show ((continued c' cursor).searchAfter?.bind Cursor.decode?).map (·.sortValues) = _
      rw [searchAfter?_continued at_.final.placed cursor, Option.bind_some, decodes]
      rfl
    obtain ⟨step, identifies, among⟩ := identifier_mem_steps (s := s) c
    have asked : Question.ofBody (s.query (continued c' cursor)).body = s.question c :=
      question_of_agree (s := s) h placed agree
    rw [h.definition] at identifies
    rw [Index.rest_cursor ix after_, asked, lawful.filter_isBehind identifies among split, split,
      List.append_cons, List.drop_left' (by simp)]
  · intro none_
    rw [searchAfter?_continued at_.final.placed cursor] at none_
    cases none_

/-- From a page on, the pages show what is left, and there are finitely many of them. -/
theorem walk_of_isAt (lawful : ix.IsLawful dt.definition.identifierField) (sized : 1 ≤ c.size)
    (survive : Survives s ix c) (at_ : IsAt dt s ix c c' k)
    (accepted : s.catalogue.accept [] s.limits pairs = .ok c') :
    ∃ pages, (∀ n, ((ix.found (s.question c)).length - k) / c.size < n →
        s.walk n pairs = some pages) ∧
      pages.flatMap (·.hits) = ((ix.found (s.question c)).drop k).map ix.source := by
  -- The number of records left decreases with every page that goes on.
  induction measured : (ix.found (s.question c)).length - k using Nat.strongRecOn generalizing k c' pairs with
  | _ left ih =>
    obtain ⟨page, hits, shows⟩ := shows_of_isAt h placed answers sized at_ accepted
    cases shows with
    | last complete visited =>
      refine ⟨[page], ?_, ?_⟩
      · intro n few
        have some_ := Nat.lt_of_le_of_lt (Nat.zero_le _) few
        obtain ⟨n, rfl⟩ : ∃ m, n = m + 1 := ⟨n - 1, by omega⟩
        rw [walk, visited]
      · have all : ((ix.found (s.question c)).drop k).take c.size = (ix.found (s.question c)).drop k := by
          apply List.take_of_length_le
          rw [List.length_drop]
          omega
        rw [List.flatMap_singleton, hits, all]
    | more before after d split full visited =>
      obtain ⟨accepted', at'⟩ := isAt_continued h placed lawful survive at_ split rfl
      rw [full] at at'
      have longer : k + c.size ≤ (ix.found (s.question c)).length := by
        rw [split, List.length_append, List.length_cons]
        omega
      obtain ⟨pages, walked, shown⟩ := ih _ (by omega) at' accepted' rfl
      refine ⟨page :: pages, ?_, ?_⟩
      · intro n few
        have fewer : left / c.size = (left - c.size) / c.size + 1 :=
          Nat.div_eq_sub_div (by omega) (by omega)
        have some_ := Nat.lt_of_le_of_lt (Nat.zero_le _) few
        obtain ⟨n, rfl⟩ : ∃ m, n = m + 1 := ⟨n - 1, by omega⟩
        rw [walk, visited]
        simp only
        rw [walked n (by rw [Nat.sub_add_eq, measured]; omega)]
        rfl
      · rw [List.flatMap_cons, hits, shown, ← List.map_append, ← List.drop_drop,
          List.take_append_drop]

end

end Session

end FacetSearch
