import FacetSearch.Query

/-!
# What is read of a body

The fields of a body as the engine finds them. Where a page starts stands in one field; all others are
the same wherever it starts.
-/

namespace FacetSearch

namespace Json

variable {name : String} {front rest : List (String × Json)} {field : String × Json}

theorem get?_of_ne (other : field.1 ≠ name) :
    (obj (front ++ field :: rest)).get? name = (obj (front ++ rest)).get? name := by
  have skipped : (field :: rest).find? (·.1 == name) = rest.find? (·.1 == name) :=
    List.find?_cons_of_neg (by simpa using other)
  rw [get?, get?, List.find?_append, List.find?_append, skipped]

theorem get?_of_absent (absent : ∀ f ∈ front, f.1 ≠ name) (here : field.1 = name) :
    (obj (front ++ field :: rest)).get? name = some field.2 := by
  have none_ : front.find? (·.1 == name) = none := by
    rw [List.find?_eq_none]
    intro f hf
    simpa using absent f hf
  rw [get?, List.find?_append, none_, Option.none_or,
    List.find?_cons_of_pos (by simpa using here), Option.map_some]

@[simp]
theorem at?_cons (path : List String) (value : Json) :
    value.at? (name :: path) = (value.get? name).bind (at? path) := by
  rw [at?, List.foldlM_cons]
  rfl

@[simp]
theorem get?_append (fields others : List (String × Json)) :
    (obj (fields ++ others)).get? name = ((obj fields).get? name).or ((obj others).get? name) := by
  rw [get?, get?, get?, List.find?_append, Option.map_or]

@[simp]
theorem get?_cons (field : String × Json) (rest : List (String × Json)) :
    (obj (field :: rest)).get? name =
      if field.1 = name then some field.2 else (obj rest).get? name := by
  rw [get?, get?, List.find?_cons]
  by_cases same : field.1 = name
  · simp only [same, beq_self_eq_true, if_true, Option.map_some]
  · simp only [beq_eq_false_iff_ne.mpr same, if_neg same]

end Json

namespace Query

variable {q : Query} {offset : Nat} {after : Option (List Json)} {name : String}

def startingAt (q : Query) (offset : Nat) (after : Option (List Json)) : Query :=
  { q with offset, after }

/-- The field that says where a page starts. -/
def start (q : Query) : String × Json :=
  match q.after with
  | some values => ("search_after", .arr values)
  | none => ("from", .nat q.offset)

theorem start_name (q : Query) : q.start.1 = "search_after" ∨ q.start.1 = "from" := by
  unfold start
  split
  · exact Or.inl rfl
  · exact Or.inr rfl

def front (q : Query) : List (String × Json) :=
  [("query", Clause.single "bool" q.matching), ("sort", .arr (q.sort.map SortStep.toJson)),
    ("size", .nat q.size), ("track_total_hits", .bool true)]

def back (q : Query) : List (String × Json) :=
  let refinements := Clause.listToJson (q.refinements.map (·.2))
  unlessEmpty "post_filter" refinements
      (Clause.single "bool" (Clause.single "must" (.arr refinements))) ++
    unlessEmpty "aggs" q.aggregations (.obj (Aggregation.partsToJson q.aggregations)) ++
    unlessEmpty "_source" q.sourceFields (.obj q.sourceFields)

theorem body_eq (q : Query) : q.body = .obj (q.front ++ q.start :: q.back) := by
  unfold body
  simp only [front, back, List.cons_append, List.nil_append, List.append_assoc]
  rfl

theorem front_startingAt (q : Query) : (q.startingAt offset after).front = q.front := rfl

theorem back_startingAt (q : Query) : (q.startingAt offset after).back = q.back := rfl

theorem get?_body_startingAt (cursor : name ≠ "search_after") (start : name ≠ "from") :
    (q.startingAt offset after).body.get? name = q.body.get? name := by
  have apart : ∀ q : Query, q.start.1 ≠ name := by
    intro q same
    rcases q.start_name with h | h
    · exact cursor (same.symm.trans h)
    · exact start (same.symm.trans h)
  rw [body_eq, body_eq, Json.get?_of_ne (apart _), Json.get?_of_ne (apart _), front_startingAt,
    back_startingAt]

theorem name_ne_of_mem_front {f : String × Json} (h : f ∈ q.front) :
    f.1 ≠ "search_after" ∧ f.1 ≠ "from" := by
  have named : f.1 ∈ ["query", "sort", "size", "track_total_hits"] := List.mem_map_of_mem (f := (·.1)) h
  have apart : ∀ name ∈ ["query", "sort", "size", "track_total_hits"],
      name ≠ "search_after" ∧ name ≠ "from" := by decide
  exact apart f.1 named

theorem fst_of_mem_unlessEmpty {items : List α} {value : Json} {f : String × Json}
    (h : f ∈ unlessEmpty name items value) : f.1 = name := by
  unfold unlessEmpty at h
  split at h
  · cases h
  · rw [List.mem_singleton.mp h]

theorem name_ne_of_mem_back {f : String × Json} (h : f ∈ q.back) :
    f.1 ≠ "search_after" ∧ f.1 ≠ "from" := by
  have named : f.1 = "post_filter" ∨ f.1 = "aggs" ∨ f.1 = "_source" := by
    rcases List.mem_append.mp h with h | h
    · rcases List.mem_append.mp h with h | h
      · exact Or.inl (fst_of_mem_unlessEmpty h)
      · exact Or.inr (Or.inl (fst_of_mem_unlessEmpty h))
    · exact Or.inr (Or.inr (fst_of_mem_unlessEmpty h))
  rcases named with same | same | same <;> rw [same] <;> exact ⟨by decide, by decide⟩

theorem get?_body_cursor {values : List Json} (behind : q.after = some values) :
    q.body.get? "search_after" = some (.arr values) := by
  rw [body_eq, Json.get?_of_absent (fun f hf => (name_ne_of_mem_front hf).1)]
  · simp only [start, behind]
  · simp only [start, behind]

theorem get?_body_offset (first : q.after = none) :
    q.body.get? "search_after" = none ∧ q.body.get? "from" = some (.nat q.offset) := by
  have start_ : q.start = ("from", .nat q.offset) := by simp only [start, first]
  refine ⟨?_, ?_⟩
  · have other : ("from", Json.nat q.offset).1 ≠ "search_after" := show "from" ≠ "search_after" by decide
    rw [body_eq, start_, Json.get?_of_ne other, Json.get?, Option.map_eq_none_iff,
      List.find?_eq_none]
    intro f hf
    rcases List.mem_append.mp hf with hf | hf
    · simpa using (name_ne_of_mem_front hf).1
    · simpa using (name_ne_of_mem_back hf).1
  · rw [body_eq, start_, Json.get?_of_absent (fun f hf => (name_ne_of_mem_front hf).2) rfl]

@[simp]
theorem get?_unlessEmpty (name other : String) (items : List α) (value : Json) :
    (Json.obj (unlessEmpty other items value)).get? name =
      if other = name ∧ items ≠ [] then some value else none := by
  cases items with
  | nil => simp [unlessEmpty, Json.get?]
  | cons item rest => simp [unlessEmpty, Json.get?]

theorem must_body (q : Query) : q.body.at? ["query", "bool", "must"] =
    if q.must = [] then none else some (.arr (q.must.map Clause.toJson)) := by
  have query : q.body.get? "query" = some (Clause.single "bool" q.matching) := rfl
  cases scored : q.must with
  | nil =>
    simp [query, Clause.single, matching, Clause.listToJson_eq_map, scored]
  | cons clause rest =>
    simp [query, Clause.single, matching, Clause.listToJson_eq_map, scored]
    rfl

theorem post_filter_body (q : Query) : q.body.at? ["post_filter", "bool", "must"] =
    if q.refinements = [] then none else some (.arr (q.refinements.map fun r => r.2.toJson)) := by
  have other : q.start.1 ≠ "post_filter" := by
    rcases q.start_name with same | same <;> rw [same] <;> decide
  cases refined : q.refinements with
  | nil =>
    simp [body_eq, front, back, Clause.listToJson_eq_map, other, refined]
  | cons r rest =>
    simp [body_eq, front, back, Clause.single, Clause.listToJson_eq_map, other, refined]
    rfl

theorem get?_body_sort (q : Query) : q.body.get? "sort" = some (.arr (q.sort.map SortStep.toJson)) := by
  rw [body_eq]
  rfl

theorem get?_body_size (q : Query) : q.body.get? "size" = some (.nat q.size) := by
  rw [body_eq]
  rfl

end Query

/-! ### Steps of the order -/

theorem Catalogue.sort_compile (catalogue : Catalogue) (c : Criteria) (promoted : List String) :
    (catalogue.compile c promoted).sort =
      if (catalogue.compile c promoted).promotions.isEmpty then
        SortStep.ofDirectives (catalogue.directives c) catalogue.definition.identifierField
      else SortStep.byRelevance catalogue.definition.identifierField := rfl

/-- The identifier is among the steps of every query, so that no two records share all sort values. -/
theorem Catalogue.identifier_mem_sort (catalogue : Catalogue) (c : Criteria) (promoted : List String) :
    ∃ s ∈ (catalogue.compile c promoted).sort, s.field = catalogue.definition.identifierField := by
  have written : ∀ ds : List Directive,
      ∃ s ∈ SortStep.ofDirectives ds catalogue.definition.identifierField,
        s.field = catalogue.definition.identifierField := by
    intro ds
    unfold SortStep.ofDirectives
    simp only
    split
    · rename_i among
      obtain ⟨d, hd, field⟩ := List.any_eq_true.mp among
      refine ⟨SortStep.ofField d.direction catalogue.definition.identifierField, ?_, rfl⟩
      refine List.mem_flatMap.mpr ⟨d, hd, List.mem_map_of_mem ?_⟩
      simpa using field
    · exact ⟨SortStep.tieBreaker catalogue.definition.identifierField,
        List.mem_append_right _ List.mem_cons_self, rfl⟩
  rw [sort_compile]
  split
  · exact written _
  · exact ⟨SortStep.tieBreaker catalogue.definition.identifierField,
      List.mem_cons_of_mem _ List.mem_cons_self, rfl⟩

end FacetSearch
