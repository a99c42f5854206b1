import FacetSearch.Export
import FacetSearch.Proofs.Query.Reading

/-!
# What a cell holds

A path leads into a record, and every list on the way stands for its items. A cell goes through the
items of a list, but not into a list among them: it holds the plain values that no list within a list
stands around, in the order of the record. Where such lists are flattened it holds every value.
-/

namespace FacetSearch

def Json.isList : Json → Bool
  | .arr _ => true
  | _ => false

namespace Export

open Json (isList)

/-! ### What a path leads to -/

/-- A plain value that a path leads to. -/
structure Found where
  text : String
  /-- Whether a list on the way stands directly within another one. -/
  stacked : Bool
  deriving DecidableEq, Repr

mutual

/-- The plain values that a path leads to, in the order of the record. A list, at whatever depth of
lists, stands for its items. -/
def reached (stacked : Bool) : Json → List String → List Found
  | .arr items, path => reachedIn stacked items path
  | .obj fields, name :: path => reachedAt stacked fields name path
  | .str s, [] => [⟨s, stacked⟩]
  | .bool b, [] => [⟨(Json.bool b).text, stacked⟩]
  | .int n, [] => [⟨(Json.int n).text, stacked⟩]
  | .float x, [] => [⟨(Json.float x).text, stacked⟩]
  | _, _ => []

def reachedIn (stacked : Bool) : List Json → List String → List Found
  | [], _ => []
  | item :: rest, path => reached (stacked || isList item) item path ++ reachedIn stacked rest path

def reachedAt (stacked : Bool) : List (String × Json) → String → List String → List Found
  | [], _, _ => []
  | (other, value) :: rest, name, path =>
    if other = name then reached stacked value path else reachedAt stacked rest name path

end

mutual

/-- The value with the items of each list within a list in the place of that list. -/
def flattened : Json → Json
  | .arr items => .arr (flattenedItems items)
  | .obj fields => .obj (flattenedFields fields)
  | value => value

def flattenedItems : List Json → List Json
  | [] => []
  | item :: rest => items (flattened item) ++ flattenedItems rest

def flattenedFields : List (String × Json) → List (String × Json)
  | [] => []
  | (name, value) :: rest => (name, flattened value) :: flattenedFields rest

end

theorem reachedIn_append (stacked : Bool) (front rest : List Json) (path : List String) :
    reachedIn stacked (front ++ rest) path = reachedIn stacked front path ++ reachedIn stacked rest path := by
  induction front with
  | nil => rfl
  | cons item front ih => rw [List.cons_append, reachedIn, reachedIn, ih, List.append_assoc]

theorem items_of_not_isList {value : Json} (plain : isList value = false) : items value = [value] := by
  cases value with
  | arr items => cases plain
  | _ => rfl

theorem reachedIn_items (stacked : Bool) (value : Json) (path : List String) :
    reachedIn stacked (items value) path = reached stacked value path := by
  cases plain : isList value with
  | false =>
    rw [items_of_not_isList plain, reachedIn, reachedIn, plain, Bool.or_false, List.append_nil]
  | true =>
    cases value with
    | arr inner => rfl
    | _ => cases plain

/-! ### What a cell shows -/

/-- The texts of a cell, where a path goes on from these values. -/
def cellTexts (values : List Json) (path : List String) : List String :=
  ((path.foldl follow values).flatMap items).filterMap plainText?

theorem follow_append (front rest : List Json) (name : String) :
    follow (front ++ rest) name = follow front name ++ follow rest name := by
  rw [follow, List.flatMap_append, List.filterMap_append, follow, follow]

theorem cellTexts_append (front rest : List Json) (path : List String) :
    cellTexts (front ++ rest) path = cellTexts front path ++ cellTexts rest path := by
  induction path generalizing front rest with
  | nil => simp only [cellTexts, List.foldl_nil, List.flatMap_append, List.filterMap_append]
  | cons name path ih =>
    have onward := ih (follow front name) (follow rest name)
    rw [← follow_append] at onward
    exact onward

theorem cellTexts_nil (path : List String) : cellTexts [] path = [] := by
  induction path with
  | nil => rfl
  | cons name path ih => exact ih

theorem follow_obj (fields : List (String × Json)) (name : String) :
    follow [.obj fields] name = ((Json.obj fields).get? name).toList := by
  cases found : (Json.obj fields).get? name with
  | none => simp [follow, items, found]
  | some value => simp [follow, items, found]

/-- Neither a path nor a cell goes into a list that is opened as an item. -/
theorem filterMap_item {α : Type} {f : Json → Option α} (skips : ∀ inner, f (.arr inner) = none)
    (item : Json) (rest : List Json) :
    ([Json.arr (item :: rest)].flatMap items).filterMap f =
      (if isList item then [] else ([item].flatMap items).filterMap f) ++
        ([Json.arr rest].flatMap items).filterMap f := by
  have apart : (item :: rest).filterMap f = [item].filterMap f ++ rest.filterMap f :=
    List.filterMap_append (l := [item])
  simp only [List.flatMap_singleton]
  refine apart.trans (congrArg (· ++ rest.filterMap f) ?_)
  split
  · rename_i list
    cases item with
    | arr inner => rw [List.filterMap_cons, skips, List.filterMap_nil]
    | _ => cases list
  · rename_i plain
    rw [items_of_not_isList (Bool.eq_false_iff.mpr plain)]

theorem follow_item (item : Json) (rest : List Json) (name : String) :
    follow [.arr (item :: rest)] name =
      (if isList item then [] else follow [item] name) ++ follow [.arr rest] name :=
  filterMap_item (fun _ => rfl) item rest

/-- An item of a list adds what it shows by itself, and a list among the items nothing. -/
theorem cellTexts_item (item : Json) (rest : List Json) (path : List String) :
    cellTexts [.arr (item :: rest)] path =
      (if isList item then [] else cellTexts [item] path) ++ cellTexts [.arr rest] path := by
  cases path with
  | nil => exact filterMap_item (fun _ => rfl) item rest
  | cons name path =>
    have onward : cellTexts [.arr (item :: rest)] (name :: path) =
        cellTexts (follow [.arr (item :: rest)] name) path := rfl
    rw [onward, follow_item, cellTexts_append]
    split
    · rw [cellTexts_nil]
      rfl
    · rfl

/-- Of what a path leads to, the texts that no list within a list stands around. -/
def shown (found : List Found) : List String :=
  (found.filter (!·.stacked)).map (·.text)

theorem shown_append (front rest : List Found) : shown (front ++ rest) = shown front ++ shown rest := by
  rw [shown, List.filter_append, List.map_append, shown, shown]

mutual

theorem shown_stacked (value : Json) (path : List String) : shown (reached true value path) = [] := by
  match value, path with
  | .arr items, path => exact shown_stackedIn items path
  | .obj fields, name :: path => exact shown_stackedAt fields name path
  | .obj fields, [] | .null, _ => rfl
  | .str s, [] | .bool b, [] | .int n, [] | .float x, [] => rfl
  | .str s, _ :: _ | .bool b, _ :: _ | .int n, _ :: _ | .float x, _ :: _ => rfl

theorem shown_stackedIn (items : List Json) (path : List String) : shown (reachedIn true items path) = [] := by
  match items with
  | [] => rfl
  | item :: rest =>
    rw [reachedIn, Bool.true_or, shown_append, shown_stacked item path, shown_stackedIn rest path]
    rfl

theorem shown_stackedAt (fields : List (String × Json)) (name : String) (path : List String) :
    shown (reachedAt true fields name path) = [] := by
  match fields with
  | [] => rfl
  | (other, value) :: rest =>
    rw [reachedAt]
    split
    · exact shown_stacked value path
    · exact shown_stackedAt rest name path

end

mutual

/-- A cell shows what a path leads to without entering a list within a list. -/
theorem cellTexts_eq (value : Json) (path : List String) :
    cellTexts [value] path = shown (reached false value path) := by
  match value, path with
  | .arr items, path => exact cellTexts_list items path
  | .obj fields, name :: path => exact cellTexts_field fields name path
  | .obj fields, [] => rfl
  | .str s, [] | .bool b, [] | .int n, [] | .float x, [] | .null, [] => rfl
  | .str s, _ :: path | .bool b, _ :: path | .int n, _ :: path | .float x, _ :: path | .null, _ :: path =>
    exact cellTexts_nil path

theorem cellTexts_list (items : List Json) (path : List String) :
    cellTexts [.arr items] path = shown (reachedIn false items path) := by
  match items with
  | [] =>
    cases path with
    | nil => rfl
    | cons name path => exact cellTexts_nil path
  | item :: rest =>
    rw [cellTexts_item, reachedIn, Bool.false_or, shown_append, cellTexts_list rest path]
    congr 1
    split
    · rename_i list
      rw [list, shown_stacked]
    · rename_i plain
      rw [Bool.eq_false_iff.mpr plain, cellTexts_eq item path]

theorem cellTexts_field (fields : List (String × Json)) (name : String) (path : List String) :
    cellTexts [.obj fields] (name :: path) = shown (reachedAt false fields name path) := by
  match fields with
  | [] => exact cellTexts_nil path
  | (other, value) :: rest =>
    have onward : cellTexts [.obj ((other, value) :: rest)] (name :: path) =
        cellTexts (follow [.obj ((other, value) :: rest)] name) path := rfl
    rw [onward, follow_obj, Json.get?_cons, reachedAt]
    split
    · exact cellTexts_eq value path
    · rw [← cellTexts_field rest name path, ← follow_obj]
      rfl

end

/-! ### Flattened records -/

mutual

/-- Where no list is left within a list, all that a path leads to is shown. -/
theorem shown_flattened (stacked : Bool) (value : Json) (path : List String) :
    shown (reached false (flattened value) path) = (reached stacked value path).map (·.text) := by
  match value, path with
  | .arr items, path => exact shown_flattenedItems stacked items path
  | .obj fields, name :: path => exact shown_flattenedFields stacked fields name path
  | .obj fields, [] | .null, _ => rfl
  | .str s, [] | .bool b, [] | .int n, [] | .float x, [] => rfl
  | .str s, _ :: _ | .bool b, _ :: _ | .int n, _ :: _ | .float x, _ :: _ => rfl

theorem shown_flattenedItems (stacked : Bool) (items : List Json) (path : List String) :
    shown (reachedIn false (flattenedItems items) path) = (reachedIn stacked items path).map (·.text) := by
  match items with
  | [] => rfl
  | item :: rest =>
    rw [flattenedItems, reachedIn_append, reachedIn_items, shown_append,
      shown_flattened (stacked || isList item) item path, shown_flattenedItems stacked rest path, reachedIn,
      List.map_append]

theorem shown_flattenedFields (stacked : Bool) (fields : List (String × Json)) (name : String)
    (path : List String) :
    shown (reachedAt false (flattenedFields fields) name path) =
      (reachedAt stacked fields name path).map (·.text) := by
  match fields with
  | [] => rfl
  | (other, value) :: rest =>
    rw [flattenedFields, reachedAt, reachedAt]
    split
    · exact shown_flattened stacked value path
    · exact shown_flattenedFields stacked rest name path

end

/-! ### Cells of a record -/

def foundAt (record : Json) (path : String) : List Found :=
  reached false record (Text.split '.' path)

theorem cell_eq (record : Json) (path : String) :
    cell record path = Text.join ", " (shown (foundAt record path)) := by
  rw [foundAt, ← cellTexts_eq]
  rfl

/-- Of the plain values that a path leads to, a cell holds those that no list within a list stands
around: all of them if there is no such list on the way, or if each is flattened first. -/
theorem cell_reached (record : Json) (path : String) :
    cell record path =
      Text.join ", " (((foundAt record path).filter (!·.stacked)).map (·.text)) ∧
    ((∀ f ∈ foundAt record path, f.stacked = false) →
      cell record path = Text.join ", " ((foundAt record path).map (·.text))) ∧
    cell (flattened record) path = Text.join ", " ((foundAt record path).map (·.text)) := by
  refine ⟨cell_eq record path, fun flat => ?_, ?_⟩
  · have whole : (foundAt record path).filter (!·.stacked) = foundAt record path := by
      rw [List.filter_eq_self]
      intro f member
      rw [flat f member, Bool.not_false]
    rw [cell_eq, shown, whole]
  · rw [cell_eq, foundAt, shown_flattened false, foundAt]

theorem cell_reached_contributors : ∃ record : Json,
    record = .obj [("contributors", .arr [.obj [("identity", .obj [("name", .str "Ada")])],
      .obj [("identity", .obj [])], .obj [("identity", .arr [.obj [("name", .str "Grace")]])]])] ∧
    (∀ f ∈ foundAt record "contributors.identity.name", f.stacked = false) ∧
    cell record "contributors.identity.name" = "Ada, Grace" := by
  refine ⟨_, rfl, by decide +kernel, ?_⟩
  rw [(cell_reached _ "contributors.identity.name").2.1 (by decide +kernel)]
  decide +kernel

/-- The second of two organizations stands in a list of its own, and is missing in the cell. -/
theorem cell_stacked : ∃ record : Json,
    record = .obj [("organizations",
      .arr [.obj [("id", .str "o1")], .arr [.obj [("id", .str "o2")]]])] ∧
    cell record "organizations.id" = "o1" ∧
    Text.join ", " ((foundAt record "organizations.id").map (·.text)) = "o1, o2" ∧
    cell (flattened record) "organizations.id" = "o1, o2" := by
  refine ⟨_, rfl, ?_, ?_, ?_⟩
  · decide +kernel
  · decide +kernel
  · decide +kernel

end Export

end FacetSearch
