import FacetSearch.Proofs.Acceptance.Gathering

/-!
# Criteria as ordered maps

Criteria that changes were made to one after the other say of each name what the changes of that name
alone come to. Each list keeps its names in the order in which they last came to have a value.
-/

namespace FacetSearch.Criteria

open Entry (upsert erase)

/-- One change of the entries. -/
inductive Change where
  | merge (p : Parameter) (value : String)
  | set (p : Parameter) (value : String)
  | remove (name : String)
  deriving DecidableEq, Repr

namespace Change

def name : Change → String
  | merge p _ | set p _ => p.name
  | remove name => name

def onValue (old : Option String) : Change → Option String
  | merge p value => some (Acceptance.extended p old value)
  | set _ value => some value
  | remove _ => none

def IsOf (dt : DocumentType) : Change → Prop
  | merge p _ | set p _ => p ∈ dt.definition.allParameters
  | remove _ => True

end Change

def apply (c : Criteria) : Change → Criteria
  | .merge p value => c.merge p value
  | .set p value => c.set p value
  | .remove name => (c.take name).2

/-- The criteria that changes make of empty ones. -/
def after (changes : List Change) : Criteria := changes.foldl apply {}

/-- The value of a name as the changes of that name alone leave it. -/
def valueAfter (changes : List Change) (name : String) : Option String :=
  (changes.filter (·.name = name)).foldl Change.onValue none

/-- A name has had a value ever since the change at a place, and had none before it. -/
def CameAt (changes : List Change) (name : String) (place : Nat) : Prop :=
  place < changes.length ∧ valueAfter (changes.take place) name = none ∧
    ∀ later, place < later → later ≤ changes.length → valueAfter (changes.take later) name ≠ none

def Earlier (changes : List Change) (first second : String) : Prop :=
  ∃ i j, CameAt changes first i ∧ CameAt changes second j ∧ i < j

variable {dt : DocumentType} {c : Criteria} {p : Parameter} {change : Change} {changes : List Change}
  {name first second : String} {place : Nat} {names : List String}

/-! ### One change more -/

theorem after_concat (changes : List Change) (change : Change) :
    after (changes ++ [change]) = (after changes).apply change := by
  rw [after, List.foldl_append]
  rfl

theorem valueAfter_concat_self (changes : List Change) (change : Change) :
    valueAfter (changes ++ [change]) change.name = change.onValue (valueAfter changes change.name) := by
  rw [valueAfter, List.filter_append, List.filter_singleton, decide_eq_true rfl, List.foldl_append]
  rfl

theorem valueAfter_concat_of_ne (other : name ≠ change.name) :
    valueAfter (changes ++ [change]) name = valueAfter changes name := by
  rw [valueAfter, List.filter_append, List.filter_singleton, decide_eq_false (Ne.symm other)]
  exact congrArg _ (List.append_nil _)

theorem CameAt.concat (came : CameAt changes name place)
    (kept : valueAfter (changes ++ [change]) name ≠ none) :
    CameAt (changes ++ [change]) name place := by
  obtain ⟨within, absent, since⟩ := came
  refine ⟨?_, ?_, fun later behind inside => ?_⟩
  · rw [List.length_append]
    exact Nat.lt_add_right _ within
  · rwa [List.take_append_of_le_length (Nat.le_of_lt within)]
  · by_cases old : later ≤ changes.length
    · rw [List.take_append_of_le_length old]
      exact since later behind old
    · rw [List.length_append, List.length_singleton] at inside
      rw [List.take_of_length_le (by rw [List.length_append, List.length_singleton]; omega)]
      exact kept

theorem cameAt_concat (absent : valueAfter changes name = none)
    (kept : valueAfter (changes ++ [change]) name ≠ none) :
    CameAt (changes ++ [change]) name changes.length := by
  refine ⟨?_, ?_, fun later behind inside => ?_⟩
  · rw [List.length_append, List.length_singleton]
    exact Nat.lt_succ_self _
  · rwa [List.take_left]
  · rw [List.length_append, List.length_singleton] at inside
    rw [List.take_of_length_le (by rw [List.length_append, List.length_singleton]; omega)]
    exact kept

theorem exists_cameAt (present : valueAfter changes name ≠ none) : ∃ place, CameAt changes name place := by
  induction changes using List.reverseRecOn with
  | nil => exact absurd rfl present
  | append_singleton front change ih =>
    by_cases absent : valueAfter front name = none
    · exact ⟨_, cameAt_concat absent present⟩
    · obtain ⟨place, came⟩ := ih absent
      exact ⟨place, came.concat present⟩

theorem Earlier.concat (earlier : Earlier changes first second)
    (kept : valueAfter (changes ++ [change]) first ≠ none)
    (kept' : valueAfter (changes ++ [change]) second ≠ none) :
    Earlier (changes ++ [change]) first second := by
  obtain ⟨i, j, came, came', before⟩ := earlier
  exact ⟨i, j, came.concat kept, came'.concat kept', before⟩

/-! ### What one change does -/

theorem apply_remove (c : Criteria) (name : String) : c.apply (.remove name) = c.remove name := by
  rw [apply, take_eq]

theorem entry?_apply_of_ne (other : name ≠ change.name) :
    entry? (c.apply change) name = c.entry? name := by
  cases change with
  | merge p value => exact entry?_modifyFor_of_ne other
  | set p value => exact entry?_modifyFor_of_ne other
  | remove removed =>
    rw [apply_remove]
    exact entry?_remove_of_ne other

/-- The two ways in which a change acts on the lists. -/
theorem apply_cases (c : Criteria) (change : Change) :
    (∃ p onValue, change.name = p.name ∧ (∀ dt, change.IsOf dt ↔ p ∈ dt.definition.allParameters) ∧
      (∀ old, change.onValue old = some (onValue old)) ∧
      c.apply change = c.modifyFor p (upsert p onValue)) ∨
    (∀ old, change.onValue old = none) ∧ c.apply change = c.remove change.name := by
  cases change with
  | merge p value => exact Or.inl ⟨p, _, rfl, fun _ => Iff.rfl, fun _ => rfl, rfl⟩
  | set p value => exact Or.inl ⟨p, fun _ => value, rfl, fun _ => Iff.rfl, fun _ => rfl, rfl⟩
  | remove name => exact Or.inr ⟨fun _ => rfl, apply_remove c name⟩

theorem IsPlaced.apply (placed : c.IsPlaced dt) (listed : change.IsOf dt) : (c.apply change).IsPlaced dt := by
  rcases apply_cases c change with ⟨p, onValue, -, of, -, step⟩ | ⟨-, step⟩
  · rw [step]
    exact placed.modifyFor ((of dt).mp listed)
  · rw [step]
    exact placed.remove change.name

theorem IsPlaced.get?_apply_self (placed : c.IsPlaced dt) (listed : change.IsOf dt) :
    (c.apply change).get? change.name = change.onValue (c.get? change.name) := by
  rcases apply_cases c change with ⟨p, onValue, name, of, value, step⟩ | ⟨value, step⟩
  · rw [step, name, value, placed.get?_modifyFor_self ((of dt).mp listed)]
  · rw [step, value, get?, placed.entry?_remove_self, Option.map_none]

/-- Names that lost some of them, or got a name behind them that had no value. -/
def Follows (c : Criteria) (name : String) (old new : List Entry) : Prop :=
  (new.map Entry.name).Sublist (old.map Entry.name) ∨
    new.map Entry.name = old.map Entry.name ++ [name] ∧ c.get? name = none

theorem follows_refl (c : Criteria) (name : String) (es : List Entry) : c.Follows name es es :=
  Or.inl (List.Sublist.refl _)

theorem follows_upsert {onValue : Option String → String} {es : List Entry}
    (stands : c.entry? p.name = Entry.named? p.name es) : c.Follows p.name es (upsert p onValue es) := by
  rw [Follows, Entry.map_name_upsert]
  by_cases known : p.name ∈ es.map Entry.name
  · rw [if_pos known]
    exact Or.inl (List.Sublist.refl _)
  · have absent : Entry.named? p.name es = none :=
      Entry.named?_eq_none_iff.mpr fun e he same => known (same ▸ List.mem_map_of_mem he)
    rw [if_neg known, get?, stands, absent]
    exact Or.inr ⟨rfl, rfl⟩

theorem IsPlaced.follows_apply (placed : c.IsPlaced dt) (listed : change.IsOf dt) :
    c.Follows change.name c.search (c.apply change).search ∧
      c.Follows change.name c.control (c.apply change).control := by
  rcases apply_cases c change with ⟨p, onValue, name, of, -, step⟩ | ⟨-, step⟩
  · have hp := (of dt).mp listed
    rw [step, name, Criteria.modifyFor]
    split
    · rename_i control
      exact ⟨follows_refl c _ _, follows_upsert (placed.entry?_control hp control)⟩
    · rename_i search
      exact ⟨follows_upsert (placed.entry?_search hp search), follows_refl c _ _⟩
  · rw [step, Criteria.remove]
    split
    · exact ⟨Or.inl (Entry.erase_sublist.map Entry.name), follows_refl c _ _⟩
    · exact ⟨follows_refl c _ _, Or.inl (Entry.erase_sublist.map Entry.name)⟩

/-! ### What all changes come to -/

/-- Criteria that are what changes come to. -/
structure IsReplay (dt : DocumentType) (changes : List Change) (c : Criteria) : Prop where
  placed : c.IsPlaced dt
  value : ∀ name, c.get? name = valueAfter changes name
  search : (c.search.map Entry.name).Pairwise (Earlier changes)
  control : (c.control.map Entry.name).Pairwise (Earlier changes)

namespace IsReplay

theorem empty (dt : DocumentType) : IsReplay dt [] {} :=
  ⟨isPlaced_empty [], fun _ => rfl, List.Pairwise.nil, List.Pairwise.nil⟩

theorem get?_of_mem (placed : c.IsPlaced dt) {e : Entry} (he : e ∈ c.entries) :
    c.get? e.name = some e.value := by
  rw [get?, placed.entry?_of_mem he, Option.map_some]

theorem pairwise_concat {old new : List Entry} (replay : IsReplay dt changes c)
    (inside : ∀ e ∈ old, e ∈ c.entries) (follows : c.Follows change.name old new)
    (present : ∀ e ∈ new, valueAfter (changes ++ [change]) e.name ≠ none)
    (ordered : (old.map Entry.name).Pairwise (Earlier changes)) :
    (new.map Entry.name).Pairwise (Earlier (changes ++ [change])) := by
  have kept : ∀ name ∈ new.map Entry.name, valueAfter (changes ++ [change]) name ≠ none := by
    intro name hn
    obtain ⟨e, he, rfl⟩ := List.mem_map.mp hn
    exact present e he
  rcases follows with shorter | ⟨longer, absent⟩
  · exact (ordered.sublist shorter).imp_of_mem fun hm hn earlier => earlier.concat (kept _ hm) (kept _ hn)
  · rw [longer] at kept ⊢
    obtain ⟨old_, new_⟩ := List.forall_mem_append.mp kept
    refine List.pairwise_append.mpr ⟨ordered.imp_of_mem fun hm hn earlier =>
      earlier.concat (old_ _ hm) (old_ _ hn), List.pairwise_singleton _ _, ?_⟩
    intro first hf other ho
    obtain rfl := List.mem_singleton.mp ho
    obtain ⟨e, he, rfl⟩ := List.mem_map.mp hf
    have before : valueAfter changes e.name ≠ none := by
      rw [← replay.value, get?_of_mem replay.placed (inside e he)]
      exact Option.some_ne_none _
    obtain ⟨place, came⟩ := exists_cameAt before
    rw [replay.value] at absent
    exact ⟨place, changes.length, came.concat (old_ _ hf), cameAt_concat absent (new_ _ ho), came.1⟩

/-- One more change leaves each list in the order in which its names came. -/
theorem step (replay : IsReplay dt changes c) (listed : change.IsOf dt) :
    IsReplay dt (changes ++ [change]) (c.apply change) := by
  have placed := replay.placed.apply listed
  have value : ∀ name, (c.apply change).get? name = valueAfter (changes ++ [change]) name := by
    intro name
    by_cases own : name = change.name
    · rw [own, replay.placed.get?_apply_self listed, valueAfter_concat_self, replay.value]
    · rw [valueAfter_concat_of_ne own, ← replay.value]
      exact get?_congr (entry?_apply_of_ne own)
  have present : ∀ e ∈ (c.apply change).entries, valueAfter (changes ++ [change]) e.name ≠ none := by
    intro e he
    rw [← value, get?_of_mem placed he]
    exact Option.some_ne_none _
  obtain ⟨search, control⟩ := replay.placed.follows_apply listed
  exact ⟨placed, value,
    replay.pairwise_concat (fun e he => mem_entries.mpr (Or.inl he)) search
      (fun e he => present e (mem_entries.mpr (Or.inl he))) replay.search,
    replay.pairwise_concat (fun e he => mem_entries.mpr (Or.inr he)) control
      (fun e he => present e (mem_entries.mpr (Or.inr he))) replay.control⟩

end IsReplay

theorem isReplay_after (listed : ∀ change ∈ changes, change.IsOf dt) :
    IsReplay dt changes (after changes) := by
  induction changes using List.reverseRecOn with
  | nil => exact IsReplay.empty dt
  | append_singleton front change ih =>
    obtain ⟨old, new⟩ := List.forall_mem_append.mp listed
    rw [after_concat]
    exact (ih old).step (new change (List.mem_singleton_self change))

/-! ### Values that are only added -/

theorem elements_merged (p : Parameter) (values : List String) (old : String) :
    ∃ value, (values.map (Change.merge p)).foldl Change.onValue (some old) = some value ∧
      p.elements value = p.elements old ++ values.flatMap p.elements := by
  induction values generalizing old with
  | nil => exact ⟨old, rfl, (List.append_nil _).symm⟩
  | cons first rest ih =>
    obtain ⟨value, merged, elements⟩ := ih (old ++ p.operator.delimiter.toString ++ first)
    refine ⟨value, merged, ?_⟩
    rw [elements, Parameter.elements_append, List.flatMap_cons, List.append_assoc]

/-- A name to which values were only added has the values of all of them, in turn. -/
theorem IsReplay.values_merged (replay : IsReplay dt changes c) (hp : p ∈ dt.definition.allParameters)
    {values : List String} (only : changes.filter (·.name = p.name) = values.map (Change.merge p)) :
    c.values p.name = values.flatMap p.elements := by
  have value := replay.value p.name
  rw [valueAfter, only] at value
  cases values with
  | nil =>
    have absent : c.entry? p.name = none := Option.map_eq_none_iff.mp value
    rw [Criteria.values, absent]
    rfl
  | cons first rest =>
    obtain ⟨merged, folded, elements⟩ := elements_merged p rest first
    obtain ⟨e, found, rfl⟩ := Option.map_eq_some_iff.mp (value.trans folded)
    obtain ⟨-, rfl⟩ := replay.placed.parameter_of_entry? hp found
    rw [Criteria.values, found, List.flatMap_cons]
    exact elements

/-! ### Ordered maps -/

/-- After changes of its parameters, criteria hold each name once and in the list of its scope, with the
value that the changes of that name alone leave. Names with a value stand in the order in which they came
to have it. What is taken is the value that stood, no change touches another name, and the pairs are
those of the presentation, then those of the query. -/
theorem after_faithful (listed : ∀ change ∈ changes, change.IsOf dt) :
    ((after changes).entries.map Entry.name).Nodup ∧
    (∀ e ∈ (after changes).entries, e.parameter ∈ dt.definition.allParameters ∧
      (e ∈ (after changes).control ↔ e.parameter.scope = .control) ∧
      (e ∈ (after changes).search ↔ e.parameter.scope ≠ .control)) ∧
    (∀ name, name ∈ (after changes).entries.map Entry.name ↔ ∃ place, CameAt changes name place) ∧
    ((after changes).search.map Entry.name).Pairwise (Earlier changes) ∧
    ((after changes).control.map Entry.name).Pairwise (Earlier changes) ∧
    (∀ name, (after changes).get? name = valueAfter changes name ∧
      ((after changes).take name).1 = valueAfter changes name) ∧
    (∀ change name, name ≠ change.name →
      entry? (apply (after changes) change) name = entry? (after changes) name) ∧
    (after changes).toPairs = (after changes).control.map (fun e => (e.name, e.value)) ++
      (after changes).search.map (fun e => (e.name, e.value)) ∧
    ∀ p ∈ dt.definition.allParameters, ∀ values : List String,
      changes.filter (·.name = p.name) = values.map (Change.merge p) →
        (after changes).values p.name = values.flatMap p.elements := by
  have replay := isReplay_after listed
  have placed := replay.placed
  refine ⟨placed.entriesOnce, fun e he => ⟨placed.listed e he, ?_, ?_⟩, fun name => ?_, replay.search,
    replay.control, fun name => ⟨replay.value name, ?_⟩, fun _ _ => entry?_apply_of_ne, List.map_append,
    fun p hp values => replay.values_merged hp⟩
  · refine ⟨placed.control e, fun control => (mem_entries.mp he).resolve_left fun search => ?_⟩
    exact placed.search e search control
  · refine ⟨placed.search e, fun query => (mem_entries.mp he).resolve_right fun control => ?_⟩
    exact query (placed.control e control)
  · constructor
    · intro member
      obtain ⟨e, he, rfl⟩ := List.mem_map.mp member
      refine exists_cameAt ?_
      rw [← replay.value, IsReplay.get?_of_mem placed he]
      exact Option.some_ne_none _
    · rintro ⟨place, came⟩
      have present := came.2.2 changes.length came.1 (Nat.le_refl _)
      rw [List.take_length, ← replay.value] at present
      obtain ⟨e, found⟩ := Option.ne_none_iff_exists'.mp (mt Option.map_eq_none_iff.mpr present)
      exact List.mem_map.mpr ⟨e, List.mem_of_find?_eq_some found, by simpa using List.find?_some found⟩
  · rw [take_eq, replay.value]

def resized (p : Parameter) : List Change :=
  [.set Control.sizeParameter "5", .merge p "kari, ola", .merge Control.sortParameter "createdDate",
    .remove "size", .merge p "siri", .merge Control.sizeParameter "10"]

/-- The size comes behind the order, as it was removed and set again; the values of the assignee are
those that were merged. -/
theorem after_faithful_assignee : ∃ p ∈ DocumentType.ticket.definition.allParameters, p.name = "assignee" ∧
    (after (resized p)).control.map Entry.name = ["sort", "size"] ∧ Earlier (resized p) "sort" "size" ∧
    ((after (resized p)).take "size").1 = some "10" ∧
    (after (resized p)).values p.name = ["kari", "ola", "siri"] := by
  have known : ∃ p ∈ DocumentType.ticket.definition.allParameters, p.name = "assignee" ∧
      (after (resized p)).control.map Entry.name = ["sort", "size"] ∧
      valueAfter (resized p) "size" = some "10" ∧
      (resized p).filter (·.name = p.name) = ["kari, ola", "siri"].map (Change.merge p) ∧
      ["kari, ola", "siri"].flatMap p.elements = ["kari", "ola", "siri"] := by
    decide
  obtain ⟨p, hp, name, names, stands, only, elements⟩ := known
  have listed : ∀ change ∈ resized p, change.IsOf .ticket := by
    have size := DocumentType.size_mem .ticket
    have sort := DocumentType.sort_mem .ticket
    intro change member
    simp only [resized, List.mem_cons, List.not_mem_nil, or_false] at member
    rcases member with rfl | rfl | rfl | rfl | rfl | rfl
    · exact size
    · exact hp
    · exact sort
    · exact trivial
    · exact hp
    · exact size
  obtain ⟨-, -, -, -, ordered, values, -, -, merged⟩ := after_faithful listed
  rw [names] at ordered
  exact ⟨p, hp, name, names, (List.pairwise_cons.mp ordered).1 "size" (List.mem_singleton_self _),
    (values "size").2.trans stands, (merged p hp _ only).trans elements⟩

end FacetSearch.Criteria
