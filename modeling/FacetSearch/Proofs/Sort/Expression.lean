import Mathlib.Data.List.Forall2
import FacetSearch.Proofs.Catalogue.Shipped
import FacetSearch.Proofs.Text.Parts

/-!
# Written orders

How the tokens of a sort expression are read one by one, and that the expression of a list of
directives is read as that list again, whatever direction tokens without one would get.
-/

namespace FacetSearch

open Text (Trimmed)

variable {table : SortTable} {fallback : Option Direction} {x : String} {ds : List Directive}
  {d : Directive}

/-! ### Reading tokens -/

theorem map_eq_map_some_iff {f : α → Option β} {xs : List α} {ys : List β} :
    xs.map f = ys.map some ↔ (xs.filter fun x => (f x).isNone) = [] ∧ xs.filterMap f = ys := by
  induction xs generalizing ys with
  | nil => cases ys <;> simp
  | cons x rest ih =>
    cases read : f x with
    | none => cases ys <;> simp [read]
    | some y => cases ys <;> simp [read, ih, and_left_comm]

namespace SortTable

theorem parse_eq (table : SortTable) (x : String) (fallback : Option Direction) :
    table.parse x fallback =
      match (tokens x).filter fun token => (table.directive? fallback token).isNone with
      | [] => .ok ((tokens x).filterMap (table.directive? fallback))
      | stray => .error stray := by
  have same : (((tokens x).map fun token => (token, table.directive? fallback token)).filter
      (·.2.isNone)).map Prod.fst =
      (tokens x).filter fun token => (table.directive? fallback token).isNone := by
    rw [List.filter_map, List.map_map]
    exact List.map_id _
  unfold parse
  simp only
  rw [same, List.filterMap_map]
  rfl

theorem parse_eq_ok_iff : table.parse x fallback = .ok ds ↔
    (tokens x).map (table.directive? fallback) = ds.map some := by
  rw [parse_eq, map_eq_map_some_iff]
  cases (tokens x).filter fun token => (table.directive? fallback token).isNone with
  | nil => simp
  | cons token rest => simp

/-- How a token is read: with the direction it gives itself, or with one for the whole expression,
or else with that of its key. -/
inductive ReadsAs (table : SortTable) (fallback : Option Direction) : String → Directive → Prop
  | bare {token : String} {key : SortKey} (plain : ':' ∉ token.toList)
      (known : table.resolve? (Text.trim token) = some key) :
      ReadsAs table fallback token ⟨key, fallback.getD key.direction⟩
  | directed {name word : String} {key : SortKey} {direction : Direction} (front : ':' ∉ name.toList)
      (back : ':' ∉ word.toList) (given : Direction.parse? (Text.trim word) = some direction)
      (known : table.resolve? (Text.trim name) = some key) :
      ReadsAs table fallback (name ++ ":" ++ word) ⟨key, direction⟩

theorem ReadsAs.known {token : String} (reads : table.ReadsAs fallback token d) :
    ∃ name, table.resolve? name = some d.key := by
  cases reads with
  | bare plain known => exact ⟨_, known⟩
  | directed front back given known => exact ⟨_, known⟩

theorem directive?_eq_some_iff {token : String} :
    table.directive? fallback token = some d ↔ table.ReadsAs fallback token d := by
  constructor
  · intro read
    unfold directive? at read
    split at read
    · rename_i name parts
      obtain ⟨plain, rfl⟩ := Text.split_eq_singleton_iff.mp parts
      obtain ⟨key, known, same⟩ := Option.bind_eq_some_iff.mp read
      obtain rfl := Option.some.inj same
      exact .bare plain known
    · rename_i name word parts
      obtain ⟨front, back, rfl⟩ := Text.split_eq_pair_iff.mp parts
      obtain ⟨direction, given, read⟩ := Option.bind_eq_some_iff.mp read
      obtain ⟨key, known, same⟩ := Option.bind_eq_some_iff.mp read
      obtain rfl := Option.some.inj same
      exact .directed front back given known
    · cases read
  · intro reads
    unfold directive?
    cases reads with
    | bare plain known =>
      rw [Text.split_eq_singleton_iff.mpr ⟨plain, rfl⟩]
      simp only [known]
      rfl
    | @directed name word _ _ front back given known =>
      have parts : Text.split ':' (name ++ ":" ++ word) = [name, word] :=
        Text.split_eq_pair_iff.mpr ⟨front, back, rfl⟩
      simp only [parts, given, known]
      rfl

/-- An expression is read token by token. -/
theorem parse_eq_ok_iff_forall₂ :
    table.parse x fallback = .ok ds ↔ List.Forall₂ (table.ReadsAs fallback) (tokens x) ds := by
  rw [parse_eq_ok_iff, ← List.forall₂_eq_eq_eq, List.forall₂_map_left_iff, List.forall₂_map_right_iff]
  simp only [directive?_eq_some_iff]

end SortTable

/-! ### Writing directives -/

namespace Catalogue.IsFor

variable {dt : DocumentType} {apiHost : String} {c : Catalogue}

theorem key_of_parse (h : c.IsFor dt apiHost) (read : c.sorts.parse x fallback = .ok ds) :
    ∀ d ∈ ds, d.key ∈ dt.definition.sortKeys := by
  intro d hd
  have member := List.mem_map_of_mem (f := some) hd
  rw [← SortTable.parse_eq_ok_iff.mp read] at member
  obtain ⟨token, -, same⟩ := List.mem_map.mp member
  obtain ⟨name, found⟩ := (SortTable.directive?_eq_some_iff.mp same).known
  exact h.mem_of_resolve? found

end Catalogue.IsFor

namespace Directive

theorem not_mem_word (direction : Direction) :
    ∀ c ∈ direction.word.toList, c ≠ ',' ∧ c ≠ ':' ∧ Text.isBlank c = false := by
  apply not_mark_of_isSortWord
  cases direction with
  | ascending => decide
  | descending => decide

variable {dt : DocumentType}

theorem trimmed_name (known : d.key ∈ dt.definition.sortKeys) : Trimmed d.key.name :=
  Text.trimmed_of_forall fun c hc => ((DocumentType.name_of_mem_sortKeys known).2 c hc).2.2

theorem trimmed_word (direction : Direction) : Trimmed direction.word :=
  Text.trimmed_of_forall fun c hc => (not_mem_word direction c hc).2.2

theorem split_text (known : d.key ∈ dt.definition.sortKeys) :
    Text.split ':' d.text = [d.key.name, d.direction.word] := by
  refine Text.split_eq_pair_iff.mpr ⟨?_, ?_, rfl⟩
  · exact fun hc => ((DocumentType.name_of_mem_sortKeys known).2 ':' hc).2.1 rfl
  · exact fun hc => (not_mem_word d.direction ':' hc).2.1 rfl

theorem text_of_known (known : d.key ∈ dt.definition.sortKeys) :
    d.text ≠ "" ∧ ∀ c ∈ d.text.toList, c ≠ ',' ∧ Text.isBlank c = false := by
  have name := DocumentType.name_of_mem_sortKeys known
  have each : ∀ c ∈ d.text.toList, c ≠ ',' ∧ Text.isBlank c = false := by
    intro c hc
    rw [text, String.toList_append, String.toList_append, List.mem_append, List.mem_append] at hc
    rcases hc with (hc | hc) | hc
    · exact ⟨(name.2 c hc).1, (name.2 c hc).2.2⟩
    · have colon : c = ':' := by simpa using hc
      rw [colon]
      exact ⟨by decide, by decide⟩
    · exact ⟨(not_mem_word d.direction c hc).1, (not_mem_word d.direction c hc).2.2⟩
  refine ⟨?_, each⟩
  intro empty
  have none_ := congrArg String.toList empty
  rw [text, String.toList_append, String.toList_append, String.toList_empty,
    List.append_eq_nil_iff, List.append_eq_nil_iff] at none_
  exact Text.toList_ne_nil name.1 none_.1.1

theorem directive?_text {apiHost : String} {c : Catalogue} (h : c.IsFor dt apiHost)
    (known : d.key ∈ dt.definition.sortKeys) (fallback : Option Direction) :
    c.sorts.directive? fallback d.text = some d := by
  unfold SortTable.directive?
  rw [split_text known]
  simp only [show Text.trim d.direction.word = d.direction.word from trimmed_word d.direction,
    show Text.trim d.key.name = d.key.name from trimmed_name known, Direction.parse?_word,
    h.resolve?_name known]
  rfl

theorem elements_expression (some_ : ds ≠ []) (known : ∀ d ∈ ds, d.key ∈ dt.definition.sortKeys) :
    (Text.split ',' (expression ds)).map Text.trim = ds.map text := by
  have parts : Text.split ',' (expression ds) = ds.map text := by
    apply Text.split_join (d := ',')
    · simpa using some_
    · intro part member
      obtain ⟨d, hd, rfl⟩ := List.mem_map.mp member
      exact fun hc => ((text_of_known (known d hd)).2 ',' hc).1 rfl
  rw [parts, List.map_map]
  exact List.map_congr_left fun d hd =>
    Text.trimmed_of_forall fun c hc => ((text_of_known (known d hd)).2 c hc).2

theorem tokens_expression (some_ : ds ≠ []) (known : ∀ d ∈ ds, d.key ∈ dt.definition.sortKeys) :
    SortTable.tokens (expression ds) = ds.map text := by
  rw [SortTable.tokens, elements_expression some_ known, List.filter_eq_self]
  intro token ht
  obtain ⟨d, hd, rfl⟩ := List.mem_map.mp ht
  exact bne_iff_ne.mpr (text_of_known (known d hd)).1

theorem trimmed_expression (known : ∀ d ∈ ds, d.key ∈ dt.definition.sortKeys) :
    Trimmed (expression ds) := by
  apply Text.trimmed_of_forall
  intro c hc
  rcases Text.mem_join hc with mark | ⟨part, member, hc⟩
  · obtain rfl := List.mem_singleton.mp mark
    decide
  · obtain ⟨d, hd, rfl⟩ := List.mem_map.mp member
    exact ((text_of_known (known d hd)).2 c hc).2

/-- What is written is read again, whatever direction is given beside it. -/
theorem parse_expression {apiHost : String} {c : Catalogue} (h : c.IsFor dt apiHost)
    (some_ : ds ≠ []) (known : ∀ d ∈ ds, d.key ∈ dt.definition.sortKeys)
    (fallback : Option Direction) : c.sorts.parse (expression ds) fallback = .ok ds := by
  rw [SortTable.parse_eq_ok_iff, tokens_expression some_ known, List.map_map]
  exact List.map_congr_left fun d hd => directive?_text h (known d hd) fallback

end Directive

end FacetSearch
