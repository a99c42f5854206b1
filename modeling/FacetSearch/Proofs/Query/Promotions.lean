import FacetSearch.Proofs.Catalogue.Names
import FacetSearch.Proofs.Number.Exactness
import FacetSearch.Proofs.Query.Reading
import FacetSearch.Proofs.Query.Semantics

/-!
# Promotions only change the order

Whatever records are promoted, the engine is asked for the same documents: bodies differ in the preferred
clauses, of which none need hold, and in the order. The records are raised by whole numbers, each by more
than the next.
-/

namespace FacetSearch

open Number (Binary Format)

/-! ### Boosts -/

namespace Boost

/-- The boost is this whole number, without an error of rounding. -/
def IsWhole (b : Boost) (n : Nat) : Prop := ∃ x, b = finite x ∧ x.negative = false ∧ x.magnitude = n

variable {a b : Boost} {m n : Nat}

theorem isWhole_ofRatio (small : n < 2 ^ 24) : (ofRatio n 1).IsWhole n := by
  obtain ⟨x, rounded, sign, value⟩ := Binary.exists_nearest_of_whole Format.single false
    (one_ne_zero : (1 : Nat) ≠ 0) (by decide) small (by decide) (by decide)
  rw [Nat.mul_one] at rounded
  exact ⟨x, by rw [ofRatio, rounded], sign, value⟩

theorem IsWhole.mul (ha : a.IsWhole m) (hb : b.IsWhole n) (small : m * n < 2 ^ 24) :
    (a.mul b).IsWhole (m * n) := by
  obtain ⟨x, rfl, signX, valueX⟩ := ha
  obtain ⟨y, rfl, signY, valueY⟩ := hb
  obtain ⟨z, rounded, sign, value⟩ := Binary.exists_nearest_of_whole Format.single
    (x.negative != y.negative) (Nat.mul_pos x.quotient_pos y.quotient_pos).ne' (by decide) small
    (by decide) (by decide)
  rw [Nat.mul_mul_mul_comm, ← Binary.quotient_of_whole valueX, ← Binary.quotient_of_whole valueY] at rounded
  refine ⟨z, ?_, ?_, value⟩
  · rw [Boost.mul, Binary.mul, rounded]
  · rw [sign, signX, signY]
    rfl

end Boost

def Json.value? : Json → Option ℚ
  | .int n => some (n : ℚ)
  | .float x => some (if x.negative then -x.magnitude else x.magnitude)
  | _ => none

theorem Boost.IsWhole.value?_toJson {b : Boost} {n : Nat} (whole : b.IsWhole n) (small : n < 2 ^ 53) :
    b.toJson.value? = some (n : ℚ) := by
  obtain ⟨x, rfl, sign, value⟩ := whole
  obtain ⟨y, converted, sign', value'⟩ := Binary.exists_nearest_of_whole Format.double
    x.negative x.quotient_pos.ne' (by decide) small (by decide) (by decide)
  rw [← Binary.quotient_of_whole value] at converted
  rw [Boost.toJson, Binary.convert, converted]
  show some (if y.negative then -y.magnitude else y.magnitude) = some (n : ℚ)
  rw [sign', sign, value']
  rfl

/-! ### Clauses of promoted records -/

namespace Promotion

variable {identifierField : String}

def written (identifierField identifier : String) (weight : Json) : Json :=
  Clause.single "term" (Clause.single identifierField
    (.obj [("value", .str identifier), ("boost", weight)]))

/-- The boosts of a list of records as they are written, with as many to go. -/
def weights : Nat → List Json
  | 0 => []
  | ahead + 1 => ((Boost.ofRatio (ahead + 1) 1).mul step).toJson :: weights ahead

theorem length_weights (ahead : Nat) : (weights ahead).length = ahead := by
  induction ahead with
  | zero => rfl
  | succ ahead ih => rw [weights, List.length_cons, ih]

theorem listToJson_clauses (promoted : List String) :
    Clause.listToJson (clauses identifierField promoted) =
      List.zipWith (written identifierField) promoted (weights promoted.length) := by
  induction promoted with
  | nil => rfl
  | cons identifier rest ih =>
    rw [clauses, Clause.listToJson, ih]
    rfl

theorem clauses_eq_nil_iff {promoted : List String} : clauses identifierField promoted = [] ↔ promoted = [] := by
  cases promoted with
  | nil => simp [clauses]
  | cons identifier rest => simp [clauses]

def weight (count k : Nat) : ℚ := 3 * ((count - k : Nat) : ℚ)

/-- Up to four million records are raised by exact multiples of the step. -/
theorem value?_weights {count : Nat} (small : count ≤ 2 ^ 22) :
    (weights count).map Json.value? = (List.range count).map fun k => some (weight count k) := by
  induction count with
  | zero => rfl
  | succ count ih =>
    have step_ : step.IsWhole 3 := Boost.isWhole_ofRatio (by decide)
    have whole := (Boost.isWhole_ofRatio (n := count + 1) (by omega)).mul step_ (by omega)
    rw [weights, List.map_cons, whole.value?_toJson (by omega), ih (by omega), List.range_succ_eq_map,
      List.map_cons, List.map_map, weight, Nat.sub_zero, Nat.cast_mul, mul_comm]
    congr 1
    refine List.map_congr_left fun k _ => ?_
    rw [Function.comp_apply, weight, weight, Nat.add_sub_add_right]

theorem weight_pos {count k : Nat} (within : k < count) : 0 < weight count k := by
  have : 0 < count - k := by omega
  unfold weight
  positivity

theorem weight_lt {count j k : Nat} (before : j < k) (within : k < count) :
    weight count k < weight count j := by
  have : ((count - k : Nat) : ℚ) < (count - j : Nat) := by
    rw [Nat.cast_lt]
    omega
  unfold weight
  linarith

end Promotion

/-! ### Bodies without their order -/

namespace Json

variable {name : String} {field : String × Json} {rest : List (String × Json)}

def others (name : String) (fields : List (String × Json)) : List (String × Json) :=
  fields.filter fun field => field.1 != name

def erase (name : String) : Json → Json
  | .obj fields => .obj (others name fields)
  | value => value

def modifyAt (change : Json → Json) : List String → Json → Json
  | [], value => change value
  | name :: path, .obj fields => .obj (fields.map fun field =>
      if field.1 = name then (field.1, modifyAt change path field.2) else field)
  | _ :: _, value => value

/-- A body without what only ranks the hits: the preferred clauses with their number, and the order. -/
def unranked (body : Json) : Json :=
  (body.modifyAt (fun matching => (matching.erase "should").erase "minimum_should_match")
    ["query", "bool"]).erase "sort"

theorem others_cons_of_ne (apart : field.1 ≠ name) : others name (field :: rest) = field :: others name rest :=
  List.filter_cons_of_pos (bne_iff_ne.mpr apart)

theorem others_cons_of_eq (same : field.1 = name) : others name (field :: rest) = others name rest :=
  List.filter_cons_of_neg fun apart => bne_iff_ne.mp apart same

theorem others_append (fields : List (String × Json)) :
    others name (fields ++ rest) = others name fields ++ others name rest := List.filter_append _ _

theorem modifyAt_cons (change : Json → Json) (name : String) (path : List String) (value : Json)
    (rest : List (String × Json)) : modifyAt change (name :: path) (.obj ((name, value) :: rest)) =
      .obj ((name, modifyAt change path value) :: rest.map fun field =>
        if field.1 = name then (field.1, modifyAt change path field.2) else field) := by
  rw [modifyAt, List.map_cons, if_pos rfl]

end Json

namespace Query

variable {Object : Type} (i : Interpretation Object) (q : Query)

/-- How many preferred clauses a document must satisfy: as many as the body says. Where it says nothing,
one if there are any and nothing else is required. -/
def leastPreferred : Nat :=
  ((q.body.at? ["query", "bool", "minimum_should_match"]).bind Json.nat?).getD
    (if q.promotions ≠ [] ∧ q.must = [] ∧ q.access.clauses = [] then 1 else 0)

/-- Whether the engine matches a document, the preferred clauses considered. -/
def isFound (d : Object) : Bool :=
  q.isMatch i d && decide (q.leastPreferred ≤ q.promotions.countP (·.holds i d))

theorem others_unlessEmpty_self (name : String) (items : List α) (value : Json) :
    Json.others name (unlessEmpty name items value) = [] := by
  apply List.filter_eq_nil_iff.mpr
  intro field member
  simp [fst_of_mem_unlessEmpty member]

theorem others_unlessEmpty_of_ne {name other : String} (apart : other ≠ name) (items : List α)
    (value : Json) : Json.others name (unlessEmpty other items value) = unlessEmpty other items value := by
  apply List.filter_eq_self.mpr
  intro field member
  rw [fst_of_mem_unlessEmpty member]
  exact bne_iff_ne.mpr apart

theorem erase_matching : (q.matching.erase "should").erase "minimum_should_match" =
    .obj (("filter", .arr (Clause.listToJson q.access.clauses)) ::
      unlessEmpty "must" (Clause.listToJson q.must) (.arr (Clause.listToJson q.must))) := by
  have filter : ∀ name ∈ ["should", "minimum_should_match"], "filter" ≠ name := by decide
  unfold matching
  rw [Json.erase, Json.others_append, Json.others_append, Json.others_cons_of_ne (filter _ (by decide)),
    others_unlessEmpty_self, others_unlessEmpty_of_ne (by decide), others_unlessEmpty_of_ne (by decide),
    Json.erase, Json.others_append, Json.others_append, Json.others_cons_of_ne (filter _ (by decide)),
    others_unlessEmpty_self, others_unlessEmpty_of_ne (by decide), Json.others, List.filter_nil,
    List.append_nil, List.append_nil]

theorem unranked_eq : q.body.unranked = .obj
    (("query", Clause.single "bool" ((q.matching.erase "should").erase "minimum_should_match")) ::
      Json.others "sort" ((("size", .nat q.size) :: ("track_total_hits", .bool true) :: q.start ::
        q.back).map fun field => if field.1 = "query" then (field.1, Json.modifyAt
          (fun matching => (matching.erase "should").erase "minimum_should_match") ["bool"] field.2)
          else field)) := by
  have query : ("query", Clause.single "bool" ((q.matching.erase "should").erase
    "minimum_should_match")).1 ≠ "sort" := show "query" ≠ "sort" by decide
  have sort : ("sort", Json.arr (q.sort.map SortStep.toJson)).1 ≠ "query" :=
    show "sort" ≠ "query" by decide
  rw [Json.unranked, body_eq, front, List.cons_append, Json.modifyAt_cons, Clause.single,
    Json.modifyAt_cons, List.cons_append, List.map_cons, if_neg sort, Json.erase]
  exact congrArg Json.obj ((Json.others_cons_of_ne query).trans
    (congrArg _ (Json.others_cons_of_eq rfl)))

theorem unranked_body (promotions : List Clause) (sort : List SortStep) :
    { q with promotions, sort }.body.unranked = q.body.unranked := by
  rw [unranked_eq, unranked_eq, erase_matching, erase_matching]
  rfl

/-- The query is another one, ranked in its own way. -/
def Reranks (q' q : Query) : Prop := q' = { q with promotions := q'.promotions, sort := q'.sort }

namespace Reranks

variable {q} {q' : Query} (ranked : q'.Reranks q) (access : Access)
include ranked

theorem under : (q'.under access).Reranks (q.under access) := by
  rw [Reranks] at ranked
  rw [ranked]
  rfl

theorem unranked : q'.body.unranked = q.body.unranked := by
  rw [Reranks] at ranked
  rw [ranked]
  exact unranked_body q _ _

theorem isMatch (d : Object) : q'.isMatch i d = q.isMatch i d := by
  rw [Reranks] at ranked
  rw [ranked]
  rfl

theorem isHit (d : Object) : q'.isHit i d = q.isHit i d := by
  rw [Reranks] at ranked
  rw [ranked]
  rfl

end Reranks

/-! ### The preferred clauses of a body -/

theorem at?_body_bool (name : String) : q.body.at? ["query", "bool", name] = q.matching.get? name := by
  have query : q.body.get? "query" = some (Clause.single "bool" q.matching) := rfl
  have bool : (Clause.single "bool" q.matching).get? "bool" = some q.matching := rfl
  rw [Json.at?_cons, query, Option.bind_some, Json.at?_cons, bool, Option.bind_some, Json.at?_cons]
  cases q.matching.get? name <;> rfl

theorem get?_unlessEmpty_of_ne {name other : String} (apart : other ≠ name) (items : List α) (value : Json) :
    (Json.obj (unlessEmpty other items value)).get? name = none := by
  rw [get?_unlessEmpty]
  exact if_neg fun both => apart both.1

theorem should_body : q.body.at? ["query", "bool", "should"] =
    if q.promotions = [] then none else some (.arr (Clause.listToJson q.promotions)) := by
  have filter : "filter" ≠ "should" := by decide
  have written : Clause.listToJson q.promotions ≠ [] ↔ ¬ q.promotions = [] := by
    rw [Clause.listToJson_eq_map, Ne, List.map_eq_nil_iff]
  rw [at?_body_bool, matching, Json.get?_append, Json.get?_append, Json.get?_cons, if_neg filter,
    get?_unlessEmpty_of_ne (show "must" ≠ "should" by decide), Option.none_or,
    get?_unlessEmpty_of_ne (show "minimum_should_match" ≠ "should" by decide), Option.or_none,
    get?_unlessEmpty]
  simp only [true_and, written, ite_not]

/-- There are as few preferred clauses to satisfy as can be. -/
theorem least_body : q.body.at? ["query", "bool", "minimum_should_match"] =
    if q.promotions = [] then none else some (.nat 0) := by
  have filter : "filter" ≠ "minimum_should_match" := by decide
  have written : Clause.listToJson q.promotions ≠ [] ↔ ¬ q.promotions = [] := by
    rw [Clause.listToJson_eq_map, Ne, List.map_eq_nil_iff]
  rw [at?_body_bool, matching, Json.get?_append, Json.get?_append, Json.get?_cons, if_neg filter,
    get?_unlessEmpty_of_ne (by decide), get?_unlessEmpty_of_ne (by decide), get?_unlessEmpty,
    Option.none_or, Option.none_or]
  simp only [true_and, written, ite_not]

theorem leastPreferred_eq_zero : q.leastPreferred = 0 := by
  rw [leastPreferred, least_body]
  by_cases none_ : q.promotions = []
  · rw [if_pos none_]
    exact if_neg fun demanded => demanded.1 none_
  · rw [if_neg none_]
    rfl

theorem isFound_eq (d : Object) : q.isFound i d = q.isMatch i d := by
  rw [isFound, leastPreferred_eq_zero, decide_eq_true (Nat.zero_le _), Bool.and_true]

end Query

namespace Catalogue

variable (catalogue : Catalogue) (c : Criteria)

/-- The criteria name exactly one subject that may have promoted records. -/
def HasSubject : Prop :=
  ∃ name ∈ catalogue.definition.promotionKey, ((c.values name).filter (· != "")).length = 1

theorem hasSubject_iff : catalogue.HasSubject c ↔ (catalogue.promotionSubject? c).isSome = true := by
  unfold HasSubject promotionSubject? Criteria.listed
  cases catalogue.definition.promotionKey with
  | none => simp
  | some name =>
    simp only [Option.mem_def, Option.some.injEq, exists_eq_left', Option.bind_some]
    generalize (c.values name).filter (· != "") = subjects
    match subjects with
    | [] | [_] | _ :: _ :: _ => simp

theorem promotions_compile (promoted : List String) : (catalogue.compile c promoted).promotions =
    if (catalogue.promotionSubject? c).isSome = true then
      Promotion.clauses catalogue.definition.identifierField promoted else [] := by
  rw [compile]
  cases catalogue.promotionSubject? c <;> rfl

theorem promotions_ne_nil_iff (promoted : List String) :
    (catalogue.compile c promoted).promotions ≠ [] ↔ catalogue.HasSubject c ∧ promoted ≠ [] := by
  rw [promotions_compile, hasSubject_iff]
  by_cases subject : (catalogue.promotionSubject? c).isSome = true
  · rw [if_pos subject, and_iff_right subject, Ne, Promotion.clauses_eq_nil_iff]
  · rw [if_neg subject]
    simp [subject]

/-- Promotions and the order are all that depends on the promoted records. -/
theorem reranks_compile (promoted promoted' : List String) :
    (catalogue.compile c promoted).Reranks (catalogue.compile c promoted') := rfl

theorem compile_of_unpromoted {promoted : List String}
    (none_ : (catalogue.compile c promoted).promotions = []) :
    catalogue.compile c promoted = catalogue.compile c [] := by
  have empty : (catalogue.compile c []).promotions = [] := by
    rw [promotions_compile]
    exact ite_self _
  have sort : (catalogue.compile c promoted).sort = (catalogue.compile c []).sort := by
    rw [sort_compile, sort_compile, none_, empty]
  rw [reranks_compile catalogue c promoted [], none_, sort, ← empty]

theorem sort_body_of_promoted {promoted : List String} (access : Access)
    (some_ : (catalogue.compile c promoted).promotions ≠ []) :
    ((catalogue.compile c promoted).under access).body.get? "sort" = some (.arr
      [Clause.single "_score" (.obj [("order", .str "desc")]),
        Clause.single catalogue.definition.identifierField (.obj [("order", .str "asc")])]) := by
  rw [Query.get?_body_sort, Query.under, sort_compile, if_neg (by simpa using some_)]
  rfl

/-- Promotions only change the order. Whatever the promoted records, the bodies agree in all but the
preferred clauses and the order, and the engine matches the same documents. Promotion clauses are there
if there are promoted records and one subject for them: one for each record, raised by a whole number
that is less for each next one; none of them need hold, and the best hits come first, then the
identifiers in their order. Otherwise the body is that without promoted records. -/
theorem promotions_reorder (access : Access) (promoted promoted' : List String) :
    ((catalogue.compile c promoted).under access).body.unranked =
      ((catalogue.compile c promoted').under access).body.unranked ∧
    (∀ {Object : Type} (i : Interpretation Object) (d : Object),
      ((catalogue.compile c promoted).under access).isFound i d =
        ((catalogue.compile c promoted').under access).isFound i d ∧
      ((catalogue.compile c promoted).under access).isHit i d =
        ((catalogue.compile c promoted').under access).isHit i d) ∧
    ((((catalogue.compile c promoted).under access).body.at? ["query", "bool", "should"]).isSome = true ↔
      catalogue.HasSubject c ∧ promoted ≠ []) ∧
    (catalogue.HasSubject c → promoted ≠ [] → ∃ weights : List Json,
      ((catalogue.compile c promoted).under access).body.at? ["query", "bool", "should"] =
        some (.arr (List.zipWith (Promotion.written catalogue.definition.identifierField) promoted
          weights)) ∧
      weights.length = promoted.length ∧
      (promoted.length ≤ 2 ^ 22 → ∃ values : List ℚ, weights.map Json.value? = values.map some ∧
        values = (List.range promoted.length).map (fun k => 3 * ((promoted.length - k : Nat) : ℚ)) ∧
        values.Pairwise (· > ·) ∧ ∀ v ∈ values, 0 < v) ∧
      ((catalogue.compile c promoted).under access).body.at? ["query", "bool", "minimum_should_match"] =
        some (.nat 0) ∧
      ((catalogue.compile c promoted).under access).body.get? "sort" = some (.arr
        [Clause.single "_score" (.obj [("order", .str "desc")]),
          Clause.single catalogue.definition.identifierField (.obj [("order", .str "asc")])])) ∧
    (¬ (catalogue.HasSubject c ∧ promoted ≠ []) →
      ((catalogue.compile c promoted).under access).body =
        ((catalogue.compile c []).under access).body) := by
  have promotes := promotions_ne_nil_iff catalogue c promoted
  have ranked : ((catalogue.compile c promoted).under access).Reranks
    ((catalogue.compile c promoted').under access) := (reranks_compile ..).under access
  refine ⟨?_, fun i d => ⟨?_, ?_⟩, ?_, ?_, ?_⟩
  · exact ranked.unranked
  · rw [Query.isFound_eq, Query.isFound_eq, ranked.isMatch]
  · exact ranked.isHit i d
  · rw [Query.should_body, ← promotes, Query.under]
    by_cases none_ : (catalogue.compile c promoted).promotions = [] <;> simp [none_]
  · intro subject some_
    have filled := promotes.mpr ⟨subject, some_⟩
    refine ⟨Promotion.weights promoted.length, ?_, Promotion.length_weights _, fun few => ?_, ?_,
      sort_body_of_promoted catalogue c access filled⟩
    · rw [Query.should_body, Query.under, if_neg filled, promotions_compile,
        if_pos ((hasSubject_iff catalogue c).mp subject), Promotion.listToJson_clauses]
    · refine ⟨_, ?_, rfl, ?_, ?_⟩
      · rw [Promotion.value?_weights few, List.map_map]
        rfl
      · rw [List.pairwise_map]
        refine List.pairwise_lt_range.imp_of_mem fun {j k} _ within before => ?_
        exact Promotion.weight_lt before (List.mem_range.mp within)
      · intro v member
        obtain ⟨k, within, rfl⟩ := List.mem_map.mp member
        exact Promotion.weight_pos (List.mem_range.mp within)
    · rw [Query.least_body, Query.under, if_neg filled]
  · intro unpromoted
    rw [compile_of_unpromoted catalogue c (not_not.mp (mt promotes.mp unpromoted))]

/-- The publications of one contributor, two of them promoted: they come first, and no other publication
is found than without them. -/
theorem promotions_reorder_twoRecords :
    ∃ catalogue c, Service.buildCatalogue Settings.forTesting .publication = .ok catalogue ∧
      catalogue.accept [] {} [("contributor", "1")] = .ok c ∧ catalogue.HasSubject c ∧
      (∃ weights : List Json, weights.map Json.value? = [some 6, some 3] ∧
        ((catalogue.compile c ["a", "b"]).under .denied).body.at? ["query", "bool", "should"] =
          some (.arr (List.zipWith (Promotion.written "identifier.keyword") ["a", "b"] weights))) ∧
      ((catalogue.compile c ["a", "b"]).under .denied).body.unranked =
        ((catalogue.compile c []).under .denied).body.unranked := by
  have evaluated : passes (Service.buildCatalogue Settings.forTesting .publication) (fun catalogue =>
      decide (catalogue.definition.identifierField = "identifier.keyword") &&
        passes (catalogue.accept [] {} [("contributor", "1")])
          fun c => (catalogue.promotionSubject? c).isSome) = true := by
    rw [Service.buildCatalogue_eq]
    decide +kernel
  obtain ⟨catalogue, built, outcome⟩ := exists_of_passes evaluated
  obtain ⟨identifier, request⟩ := Bool.and_eq_true_iff.mp outcome
  obtain ⟨c, accepted, some_⟩ := exists_of_passes request
  have subject := (hasSubject_iff catalogue c).mpr some_
  obtain ⟨same, -, -, raised, -⟩ := promotions_reorder catalogue c .denied ["a", "b"] []
  obtain ⟨weights, should, -, exact_, -⟩ := raised subject (List.cons_ne_nil _ _)
  obtain ⟨values, written, rfl, -⟩ := exact_ (by decide)
  rw [of_decide_eq_true identifier] at should
  refine ⟨catalogue, c, built, accepted, subject, ⟨weights, written.trans ?_, should⟩, same⟩
  norm_num [List.range_succ]

end Catalogue

end FacetSearch
