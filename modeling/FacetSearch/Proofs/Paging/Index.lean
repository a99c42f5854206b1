import FacetSearch.Engine.Reply
import FacetSearch.Proofs.Query.Reading
import Mathlib.Data.List.Sort

/-!
# What the engine answers

An index is a fixed set of records as the engine sees them. It puts the records that a question matches
in the order of the question's sort steps, and shows a slice of them: from an offset on, or what comes
strictly behind given sort values.
-/

namespace FacetSearch

/-- What a body asks, apart from where the page starts. -/
structure Question where
  query : Option Json
  postFilter : Option Json
  steps : List Json
  size : Nat

def Question.usualSize : Nat := 10

def Question.ofBody (body : Json) : Question where
  query := body.get? "query"
  postFilter := body.get? "post_filter"
  steps := ((body.get? "sort").bind Json.items?).getD []
  size := ((body.get? "size").bind Json.nat?).getD usualSize

theorem Question.ofBody_startingAt (q : Query) (offset : Nat) (after : Option (List Json)) :
    ofBody (q.startingAt offset after).body = ofBody q.body := by
  have apart : ∀ name ∈ ["query", "post_filter", "sort", "size"],
      name ≠ "search_after" ∧ name ≠ "from" := by decide
  have kept : ∀ name ∈ ["query", "post_filter", "sort", "size"],
      (q.startingAt offset after).body.get? name = q.body.get? name :=
    fun name hn => Query.get?_body_startingAt (apart name hn).1 (apart name hn).2
  rw [ofBody, ofBody, kept _ (by decide), kept _ (by decide), kept _ (by decide),
    kept _ (by decide)]

theorem Question.steps_ofBody (q : Query) : (ofBody q.body).steps = q.sort.map SortStep.toJson := by
  rw [ofBody, Query.get?_body_sort]
  rfl

theorem Question.size_ofBody (q : Query) : (ofBody q.body).size = q.size := by
  rw [ofBody, Query.get?_body_size]
  rfl

structure Index (Doc : Type) where
  documents : List Doc
  identifier : Doc → String
  source : Doc → Json
  isMatch : Question → Doc → Bool
  /-- The value that a record is ordered by in one step of an order. -/
  sortValue : Question → Json → Doc → Json
  compare : Json → Json → Json → Ordering
  aggregations : Question → Option Json
  took : Nat

namespace Index

variable {Doc : Type} (ix : Index Doc)

def values (question : Question) (d : Doc) : List Json :=
  question.steps.map fun step => ix.sortValue question step d

/-- The first step in which values differ decides. -/
def compareValues : List Json → List Json → List Json → Ordering
  | step :: steps, v :: vs, w :: ws => (ix.compare step v w).then (compareValues steps vs ws)
  | _, _, _ => .eq

def order (question : Question) (d e : Doc) : Ordering :=
  ix.compareValues question.steps (ix.values question d) (ix.values question e)

def isBehind (question : Question) (values : List Json) (d : Doc) : Bool :=
  ix.compareValues question.steps values (ix.values question d) == .lt

def precedes (question : Question) (d e : Doc) : Prop := (ix.order question d e).isLE = true

instance (question : Question) : DecidableRel (ix.precedes question) :=
  fun d e => inferInstanceAs (Decidable ((ix.order question d e).isLE = true))

def found (question : Question) : List Doc :=
  (ix.documents.filter (ix.isMatch question)).insertionSort (ix.precedes question)

/-- What is found from where a page starts on. -/
def rest (body : Json) : List Doc :=
  let question := Question.ofBody body
  match (body.get? "search_after").bind Json.items? with
  | some values => (ix.found question).filter (ix.isBehind question values)
  | none => (ix.found question).drop (((body.get? "from").bind Json.nat?).getD 0)

def hit (question : Question) (d : Doc) : Hit :=
  ⟨ix.source d, some (ix.values question d)⟩

def reply (body : Json) : EngineReply :=
  let question := Question.ofBody body
  { took := ix.took
    total := some (ix.found question).length
    hits := ((ix.rest body).take question.size).map (ix.hit question)
    aggregations := ix.aggregations question }

theorem rest_offset {q : Query} (first : q.after = none) :
    ix.rest q.body = (ix.found (Question.ofBody q.body)).drop q.offset := by
  rw [rest, (Query.get?_body_offset first).1, (Query.get?_body_offset first).2]
  rfl

theorem rest_cursor {q : Query} {values : List Json} (behind : q.after = some values) :
    ix.rest q.body = (ix.found (Question.ofBody q.body)).filter
      (ix.isBehind (Question.ofBody q.body) values) := by
  rw [rest, Query.get?_body_cursor behind]
  rfl

/-- Records are told apart by their identifiers, each step of an order is a total preorder, and a step
by the identifier sees every difference. -/
structure IsLawful (identifierField : String) : Prop where
  distinct : (ix.documents.map ix.identifier).Nodup
  ordered : ∀ step, Std.TransCmp (ix.compare step)
  identified : ∀ s : SortStep, s.field = identifierField → ∀ question, ∀ d ∈ ix.documents,
    ∀ e ∈ ix.documents, ix.compare s.toJson (ix.sortValue question s.toJson d)
      (ix.sortValue question s.toJson e) = .eq → ix.identifier d = ix.identifier e

variable {ix} {identifierField : String} {question : Question}

/-! ### The order of what is found -/

theorem perm_found : (ix.found question).Perm (ix.documents.filter (ix.isMatch question)) :=
  List.perm_insertionSort _ _

theorem mem_documents_of_mem_found {d : Doc} (h : d ∈ ix.found question) : d ∈ ix.documents :=
  (List.mem_filter.mp (perm_found.mem_iff.mp h)).1

namespace IsLawful

variable (lawful : ix.IsLawful identifierField)
include lawful

/-- The first difference decides, so preorders of the steps make a preorder of the records. -/
theorem transCmp_steps (steps : List Json) : Std.TransCmp fun d e : Doc => ix.compareValues steps
    (steps.map fun step => ix.sortValue question step d)
    (steps.map fun step => ix.sortValue question step e) := by
  induction steps with
  | nil => exact { eq_swap := rfl, isLE_trans := fun _ _ => rfl }
  | cons step steps ih =>
    have ordered := lawful.ordered step
    have first : Std.TransCmp fun d e : Doc =>
        ix.compare step (ix.sortValue question step d) (ix.sortValue question step e) :=
      { eq_swap := ordered.eq_swap, isLE_trans := ordered.isLE_trans }
    exact inferInstanceAs (Std.TransCmp (compareLex
      (fun d e : Doc => ix.compare step (ix.sortValue question step d) (ix.sortValue question step e))
      (fun d e : Doc => ix.compareValues steps (steps.map fun step => ix.sortValue question step d)
        (steps.map fun step => ix.sortValue question step e))))

theorem transCmp_order : Std.TransCmp (ix.order question) :=
  lawful.transCmp_steps question.steps

theorem eq_of_order_eq {s : SortStep} (identifies : s.field = identifierField)
    (among : s.toJson ∈ question.steps) {d e : Doc} (hd : d ∈ ix.documents) (he : e ∈ ix.documents)
    (same : ix.order question d e = .eq) : ix.identifier d = ix.identifier e := by
  have each : ∀ steps : List Json, s.toJson ∈ steps → ix.compareValues steps
      (steps.map fun step => ix.sortValue question step d)
      (steps.map fun step => ix.sortValue question step e) = .eq →
      ix.identifier d = ix.identifier e := by
    intro steps
    induction steps with
    | nil => exact fun among => absurd among List.not_mem_nil
    | cons step steps ih =>
      intro among same
      obtain ⟨here, there⟩ := Ordering.then_eq_eq.mp same
      rcases List.mem_cons.mp among with rfl | among
      · exact lawful.identified s identifies question d hd e he here
      · exact ih among there
  exact each question.steps among same

/-- Where the identifier is among the steps, what is found stands in a strict order. -/
theorem pairwise_found {s : SortStep} (identifies : s.field = identifierField)
    (among : s.toJson ∈ question.steps) :
    (ix.found question).Pairwise fun d e => ix.order question d e = .lt := by
  have trans : Std.TransCmp (ix.order question) := lawful.transCmp_order
  have total : Std.Total (ix.precedes question) := by
    constructor
    intro d e
    by_cases le : ix.precedes question d e
    · exact Or.inl le
    · have lt : ix.order question e d = .lt := Std.OrientedCmp.lt_of_not_isLE le
      refine Or.inr ?_
      rw [precedes, lt]
      rfl
  have chain : IsTrans Doc (ix.precedes question) := ⟨fun _ _ _ => trans.isLE_trans⟩
  have sorted : (ix.found question).Pairwise (ix.precedes question) :=
    List.pairwise_insertionSort _ _
  have distinct : ((ix.found question).map ix.identifier).Nodup := by
    rw [(perm_found.map ix.identifier).nodup_iff]
    exact (List.filter_sublist.map ix.identifier).nodup lawful.distinct
  have apart : (ix.found question).Pairwise fun d e => ix.identifier d ≠ ix.identifier e :=
    List.pairwise_map.mp distinct
  refine (sorted.and apart).imp_of_mem ?_
  intro d e hd he both
  have hd := mem_documents_of_mem_found hd
  have he := mem_documents_of_mem_found he
  cases compared : ix.order question d e with
  | lt => rfl
  | eq => exact absurd (lawful.eq_of_order_eq identifies among hd he compared) both.2
  | gt =>
    rw [precedes, compared] at both
    exact absurd both.1 (by decide)

/-- Behind the values of a record of the result comes what stands behind it. -/
theorem filter_isBehind {s : SortStep} (identifies : s.field = identifierField)
    (among : s.toJson ∈ question.steps) {before after : List Doc} {d : Doc}
    (split : ix.found question = before ++ d :: after) :
    (ix.found question).filter (ix.isBehind question (ix.values question d)) = after := by
  have trans : Std.TransCmp (ix.order question) := lawful.transCmp_order
  have strict := lawful.pairwise_found identifies among
  rw [split, List.pairwise_append, List.pairwise_cons] at strict
  obtain ⟨-, ⟨behind, -⟩, ahead⟩ := strict
  have decides : ∀ e, ix.isBehind question (ix.values question d) e =
      (ix.order question d e == .lt) := fun _ => rfl
  have none_ : before.filter (ix.isBehind question (ix.values question d)) = [] := by
    apply List.filter_eq_nil_iff.mpr
    intro e he
    have gt := Std.OrientedCmp.gt_of_lt (ahead e he d List.mem_cons_self)
    simp [decides, gt]
  have all : after.filter (ix.isBehind question (ix.values question d)) = after := by
    apply List.filter_eq_self.mpr
    intro e he
    simp [decides, behind e he]
  have itself : ix.isBehind question (ix.values question d) d = false := by
    have same : ix.order question d d = .eq := Std.ReflCmp.compare_self
    rw [decides, same]
    rfl
  rw [split, List.filter_append, none_, List.filter_cons_of_neg (by simp [itself]), all,
    List.nil_append]

end IsLawful

end Index

end FacetSearch
