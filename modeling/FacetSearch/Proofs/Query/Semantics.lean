import FacetSearch.Proofs.Clause.Semantics
import FacetSearch.Query

/-!
# What queries find

A query matches the documents that satisfy its access clauses and its scored clauses; promotions are
optional. The hits satisfy the refinements too, while the aggregations look at all documents matched.
-/

namespace FacetSearch

variable {Object : Type} (i : Interpretation Object)

namespace Aggregation

mutual

/-- The documents that an aggregation or one of its parts counts, when it looks at these objects, each
of them beside its document. -/
def counted : Aggregation → List (Object × Object) → List Object
  | terms field _ parts, seen =>
    let holding := seen.filter fun (_, o) => i.present field o
    holding.map (·.1) ++ partsCounted parts holding
  | inside path parts, seen =>
    let inner := seen.flatMap fun (d, o) => (i.objects path o).map fun x => (d, x)
    inner.map (·.1) ++ partsCounted parts inner
  | filtered clause parts, seen =>
    let passing := seen.filter fun (_, o) => clause.holds i o
    passing.map (·.1) ++ partsCounted parts passing
  | sample _, seen => seen.map (·.1)
  | holders parts, seen => seen.map (·.1) ++ partsCounted parts (seen.map fun (d, _) => (d, d))
  | distinct field, seen => (seen.filter fun (_, o) => i.present field o).map (·.1)

def partsCounted : List (String × Aggregation) → List (Object × Object) → List Object
  | [], _ => []
  | (_, aggregation) :: rest, seen => aggregation.counted seen ++ partsCounted rest seen

end

variable {i} {d : Object}

theorem mem_of_mem_filter {seen : List (Object × Object)} {keep : Object × Object → Bool}
    (h : d ∈ (seen.filter keep).map (·.1)) : d ∈ seen.map (·.1) :=
  (List.filter_sublist.map _).subset h

theorem mem_of_mem_inside {seen : List (Object × Object)} {path : String}
    (h : d ∈ (seen.flatMap fun (d, o) => (i.objects path o).map fun x => (d, x)).map (·.1)) :
    d ∈ seen.map (·.1) := by
  obtain ⟨inner, hi, rfl⟩ := List.mem_map.mp h
  obtain ⟨pair, hp, hi⟩ := List.mem_flatMap.mp hi
  obtain ⟨x, -, rfl⟩ := List.mem_map.mp hi
  exact List.mem_map_of_mem (f := (·.1)) hp

mutual

/-- Every level of an aggregation narrows what it looks at, so none counts a document that it was not
shown. -/
theorem mem_of_mem_counted (a : Aggregation) (seen : List (Object × Object))
    (h : d ∈ a.counted i seen) : d ∈ seen.map (·.1) := by
  cases a with
  | terms field size parts =>
    rw [counted] at h
    rcases List.mem_append.mp h with h | h
    · exact mem_of_mem_filter h
    · exact mem_of_mem_filter (mem_of_mem_partsCounted parts _ h)
  | inside path parts =>
    rw [counted] at h
    rcases List.mem_append.mp h with h | h
    · exact mem_of_mem_inside h
    · exact mem_of_mem_inside (mem_of_mem_partsCounted parts _ h)
  | filtered clause parts =>
    rw [counted] at h
    rcases List.mem_append.mp h with h | h
    · exact mem_of_mem_filter h
    · exact mem_of_mem_filter (mem_of_mem_partsCounted parts _ h)
  | sample source =>
    rw [counted] at h
    exact h
  | holders parts =>
    rw [counted] at h
    rcases List.mem_append.mp h with h | h
    · exact h
    · simpa using mem_of_mem_partsCounted parts _ h
  | distinct field =>
    rw [counted] at h
    exact mem_of_mem_filter h

theorem mem_of_mem_partsCounted (parts : List (String × Aggregation))
    (seen : List (Object × Object)) (h : d ∈ partsCounted i parts seen) : d ∈ seen.map (·.1) := by
  match parts with
  | [] =>
    rw [partsCounted] at h
    cases h
  | (_, a) :: rest =>
    rw [partsCounted] at h
    rcases List.mem_append.mp h with h | h
    · exact mem_of_mem_counted a seen h
    · exact mem_of_mem_partsCounted rest seen h

end

end Aggregation

namespace Query

def under (q : Query) (access : Access) : Query := { q with access }

def isMatch (q : Query) (d : Object) : Bool :=
  q.access.clauses.all (·.holds i d) && q.must.all (·.holds i d)

def isHit (q : Query) (d : Object) : Bool :=
  q.isMatch i d && q.refinements.all fun (_, clause) => clause.holds i d

def hits (q : Query) (documents : List Object) : List Object :=
  documents.filter (q.isHit i)

def counted (q : Query) (documents : List Object) : List Object :=
  Aggregation.partsCounted i q.aggregations ((documents.filter (q.isMatch i)).map fun d => (d, d))

variable {i} {q : Query} {documents : List Object} {d : Object}

end Query
end FacetSearch
