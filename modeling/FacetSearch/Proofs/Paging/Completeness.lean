import FacetSearch.Proofs.Paging.Walk

/-!
# Paging is complete

Whoever follows the continuations from an accepted request gets every record that it finds from its
offset on, once and in order. Under a host whose addresses cannot stand in a list the second request
may be refused.
-/

namespace FacetSearch

open Acceptance

namespace Session

variable {Doc : Type} {ix : Index Doc} {dt : DocumentType} {settings : Settings} {s : Session}
  {c : Criteria} {pairs : List (String × String)}

/-! ### The first page -/

theorem isAt_first {apiHost : String} (h : s.catalogue.IsFor dt apiHost)
    (absolute : IsAbsolute apiHost) (accepted : s.catalogue.accept [] s.limits pairs = .ok c)
    (plain : IsPlain c) (first : c.searchAfter? = none) : IsAt dt s ix c c c.offset := by
  have unbehind : (s.query c).after = none := s.catalogue.after_of_first first s.promoted
  refine ⟨Criteria.Agree.refl c, isFinal_of_accept h accepted absolute plain,
    required_of_accept h accepted, ?_, Index.rest_offset ix unbehind, fun _ => rfl⟩
  exact present_of_accept h accepted List.not_mem_nil (fun member => absurd member List.not_mem_nil)

/-! ### All pages -/

/-- Against an engine that answers from a fixed index, a walk from an accepted request without a
cursor comes to an end, and its pages put end to end show what the request finds, from its offset on.
What it finds stands in a strict order, and is every record that matches. -/
theorem walk_complete (built : Service.buildCatalogue settings dt = .ok s.catalogue)
    (absolute : IsAbsolute settings.apiHost) (lawful : ix.IsLawful dt.definition.identifierField)
    (answers : ∀ body, EngineReply.ofJson? (s.answer body) = some (ix.reply body))
    (accepted : s.catalogue.accept [] s.limits pairs = .ok c) (plain : IsPlain c)
    (first : c.searchAfter? = none) (sized : 1 ≤ c.size) (survive : Survives s ix c) :
    let found := ix.found (s.question c)
    (∃ pages, (∀ n, (found.length - c.offset) / c.size < n → s.walk n pairs = some pages) ∧
      pages.flatMap (·.hits) = (found.drop c.offset).map ix.source) ∧
    found.Pairwise (fun d e => ix.order (s.question c) d e = .lt) ∧
    found.Perm (ix.documents.filter (ix.isMatch (s.question c))) := by
  have h := Service.isFor_of_buildCatalogue built
  have at_ : IsAt dt s ix c c c.offset := isAt_first h absolute accepted plain first
  refine ⟨?_, ?_, Index.perm_found⟩
  · exact walk_of_isAt h at_.final.placed answers lawful sized survive at_ accepted
  · obtain ⟨step, identifies, among⟩ := identifier_mem_steps (s := s) c
    rw [h.definition] at identifies
    exact lawful.pairwise_found identifies among

end Session

/-! ### Numbered records -/

def Hit.toJson (hit : Hit) : Json :=
  .obj [("_source", hit.source), ("sort", .arr (hit.sort.getD []))]

namespace Index

def foundJson {Doc : Type} (ix : Index Doc) (body : Json) : Json :=
  .obj [("total", .nat (ix.found (Question.ofBody body)).length),
    ("hits", .arr ((ix.reply body).hits.map Hit.toJson))]

/-- The answer of an index that counts no facets. -/
def response {Doc : Type} (ix : Index Doc) (body : Json) : Json :=
  .obj [("took", .nat ix.took), ("hits", ix.foundJson body)]

theorem ofJson?_response {Doc : Type} (ix : Index Doc) (uncounted : ∀ q, ix.aggregations q = none)
    (body : Json) : EngineReply.ofJson? (ix.response body) = some (ix.reply body) := by
  have each : ∀ docs : List Doc, ((docs.map (ix.hit (Question.ofBody body))).map Hit.toJson).mapM
      EngineReply.readHit = some (docs.map (ix.hit (Question.ofBody body))) := by
    intro docs
    induction docs with
    | nil => rfl
    | cons d rest ih =>
      rw [List.map_cons, List.map_cons, List.mapM_cons, ih]
      rfl
  have hits : EngineReply.readHits (ix.foundJson body) =
      some (some (ix.found (Question.ofBody body)).length, (ix.reply body).hits) := by
    show (((ix.reply body).hits.map Hit.toJson).mapM EngineReply.readHit).bind
      (fun hits => some (some (ix.found (Question.ofBody body)).length, hits)) = _
    rw [reply, each]
    rfl
  show ((EngineReply.readHits (ix.foundJson body)).bind fun found =>
    some (EngineReply.mk ix.took found.1 found.2 none)) = _
  rw [hits, reply, uncounted]
  rfl

/-- Records that have nothing but a number, in the order of their numbers. -/
def numbered (n : Nat) : Index Nat where
  documents := List.range n
  identifier d := String.ofList (Number.Decimal.render d)
  source := .nat
  isMatch _ _ := true
  sortValue _ _ := .nat
  compare _ v w := Ord.compare (v.nat?.getD 0) (w.nat?.getD 0)
  aggregations _ := none
  took := 1

variable {n : Nat} {question : Question}

theorem isLawful_numbered (field : String) : (numbered n).IsLawful field := by
  refine ⟨?_, ?_, ?_⟩
  · refine List.Nodup.map ?_ List.nodup_range
    intro d e same
    have digits := congrArg Number.Decimal.digits? (String.ofList_inj.mp same)
    rw [Number.Decimal.digits?_render, Number.Decimal.digits?_render] at digits
    exact Option.some.inj digits
  · intro step
    exact { eq_swap := Std.OrientedOrd.eq_swap, isLE_trans := Std.TransOrd.isLE_trans }
  · intro s _ question d _ e _ same
    exact congrArg (fun d => String.ofList (Number.Decimal.render d)) (Nat.compare_eq_eq.mp same)

theorem found_numbered : (numbered n).found question = List.range n := by
  have all : (List.range n).filter ((numbered n).isMatch question) = List.range n :=
    List.filter_eq_self.mpr fun _ _ => rfl
  have order : ∀ d e : Nat, d ≤ e → (numbered n).precedes question d e := by
    intro d e le
    have steps : ∀ steps : List Json, ((numbered n).compareValues steps
        (steps.map fun _ => .nat d) (steps.map fun _ => .nat e)).isLE = true := by
      intro steps
      induction steps with
      | nil => rfl
      | cons step steps ih =>
        refine Ordering.isLE_then_iff_and.mpr ⟨Nat.isLE_compare.mpr le, ?_⟩
        exact Or.inr ih
    exact steps question.steps
  show ((List.range n).filter ((numbered n).isMatch question)).insertionSort _ = List.range n
  rw [all]
  exact (List.pairwise_le_range.imp (order _ _)).insertionSort_eq

end Index

/-- Whether this is a number twice. -/
def Json.isTwice (d : Nat) : Json → Bool
  | .arr [.int a, .int b] => a == d && b == d
  | _ => false

theorem Json.eq_of_isTwice {d : Nat} {value : Json} (h : value.isTwice d = true) :
    value = .arr [.nat d, .nat d] := by
  unfold isTwice at h
  split at h
  · obtain ⟨first, second⟩ := Bool.and_eq_true_iff.mp h
    rw [eq_of_beq first, eq_of_beq second]
    rfl
  · cases h

theorem Json.parse?_twice : ∀ d < 5,
    parse? (arr [.nat d, .nat d]).text = some (.arr [.nat d, .nat d]) := by
  have evaluated : ∀ d < 5, (parse? (arr [.nat d, .nat d]).text).any (isTwice d) = true := by
    decide +kernel
  intro d small
  obtain ⟨value, parsed, twice⟩ := (Option.any_eq_true _ _).mp (evaluated d small)
  rw [parsed, eq_of_isTwice twice]

/-! ### Tickets one by one -/

def Session.ofTickets (catalogue : Catalogue) (n : Nat) : Session where
  catalogue := catalogue
  limits := {}
  access := .denied
  promoted := []
  base := { scheme := "https", authority := some { host := "api.test" }, path := .segments ["tickets"] }
  answer := (Index.numbered n).response

section

variable {catalogue : Catalogue} {n : Nat}

theorem answers_ofTickets (body : Json) :
    EngineReply.ofJson? ((Session.ofTickets catalogue n).answer body) =
      some ((Index.numbered n).reply body) :=
  Index.ofJson?_response (Index.numbered n) (fun _ => rfl) body

theorem survives_ofTickets {c : Criteria} (few : n ≤ 5)
    (steps : (catalogue.compile c []).sort.length = 2) :
    (Session.ofTickets catalogue n).Survives (Index.numbered n) c := by
  intro d hd
  have two : ((Session.ofTickets catalogue n).question c).steps.length = 2 := by
    rw [Session.question, Question.steps_ofBody, List.length_map]
    exact steps
  have values : (Index.numbered n).values ((Session.ofTickets catalogue n).question c) d =
      [.nat d, .nat d] := by
    obtain ⟨first, second, both⟩ := List.length_eq_two.mp two
    rw [Index.values, both]
    rfl
  have small : d < n := List.mem_range.mp (Index.mem_documents_of_mem_found hd)
  rw [values]
  exact Json.parse?_twice d (by omega)

end

/-- From the fourth of five tickets on, one a page, a client gets the fourth and the fifth. -/
theorem walk_lastTickets : ∃ catalogue pages,
    Service.buildCatalogue Settings.forTesting .ticket = .ok catalogue ∧
    (Session.ofTickets catalogue 5).walk 3 [("page", "3"), ("size", "1")] = some pages ∧
    pages.flatMap (·.hits) = [.nat 3, .nat 4] := by
  obtain ⟨catalogue, built, each⟩ := exists_thirdPage
  obtain ⟨c, accepted, plain, first, -, offset, size, steps⟩ := each [] List.mem_cons_self
  obtain ⟨⟨pages, walked, shown⟩, -⟩ := Session.walk_complete built Settings.isAbsolute_forTesting
    (Index.isLawful_numbered _) answers_ofTickets accepted plain first (Nat.le_of_eq size.symm)
    (survives_ofTickets (Nat.le_refl 5) steps)
  rw [Index.found_numbered, offset] at shown
  refine ⟨catalogue, pages, built, walked 3 ?_, shown⟩
  rw [Index.found_numbered, offset, size]
  decide

/-! ### Hosts with commas -/

def Session.breaksOff (s : Session) (pairs : List (String × String)) : Bool :=
  match s.visit pairs with
  | some (_, some link) => (s.visit link.pairs).isNone
  | _ => false

theorem Session.walk_of_breaksOff {s : Session} {pairs : List (String × String)}
    (h : s.breaksOff pairs = true) (n : Nat) : s.walk n pairs = none := by
  cases n with
  | zero => rfl
  | succ n =>
    unfold breaksOff at h
    split at h
    · rename_i page link visited
      have refused : s.walk n link.pairs = none := by
        cases n with
        | zero => rfl
        | succ n => rw [walk, Option.isNone_iff_eq_none.mp h]
      rw [walk, visited]
      simp only [refused, Option.map_none]
    · cases h

/-- The engine keeps all rules and the host begins as it must, yet no walk comes to an end. -/
theorem walk_refused : ∃ catalogue c,
    (Settings.withCommas.apiHost.toList.take 8 = "https://".toList) ∧
    Service.buildCatalogue Settings.withCommas .ticket = .ok catalogue ∧
    (Index.numbered 2).IsLawful DocumentType.ticket.definition.identifierField ∧
    (∀ body, EngineReply.ofJson? ((Session.ofTickets catalogue 2).answer body) =
      some ((Index.numbered 2).reply body)) ∧
    catalogue.accept [] {} [("size", "1"), ("publicationId", "1")] = .ok c ∧ IsPlain c ∧
    c.searchAfter? = none ∧ 1 ≤ c.size ∧
    (Session.ofTickets catalogue 2).Survives (Index.numbered 2) c ∧
    ∀ n, (Session.ofTickets catalogue 2).walk n [("size", "1"), ("publicationId", "1")] = none := by
  have evaluated : passes (Service.buildCatalogue Settings.withCommas .ticket) (fun catalogue =>
      passes (catalogue.accept [] {} [("size", "1"), ("publicationId", "1")]) (fun c =>
        decide (IsPlain c ∧ c.searchAfter? = none ∧ c.size = 1 ∧
          (catalogue.compile c []).sort.length = 2)) &&
      (Session.ofTickets catalogue 2).breaksOff [("size", "1"), ("publicationId", "1")]) = true := by
    rw [Service.buildCatalogue_eq]
    decide +kernel
  obtain ⟨catalogue, built, outcome⟩ := exists_of_passes evaluated
  obtain ⟨first, second⟩ := Bool.and_eq_true_iff.mp outcome
  obtain ⟨c, accepted, found⟩ := exists_of_passes first
  obtain ⟨plain, cursor, size, steps⟩ := of_decide_eq_true found
  exact ⟨catalogue, c, by decide, built, Index.isLawful_numbered _, answers_ofTickets, accepted, plain,
    cursor, Nat.le_of_eq size.symm, survives_ofTickets (by decide) steps,
    Session.walk_of_breaksOff second⟩

end FacetSearch
