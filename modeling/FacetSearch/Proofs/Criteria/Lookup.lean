import FacetSearch.Proofs.Catalogue.Shipped
import FacetSearch.Proofs.Criteria.Placement

/-!
# Criteria as maps

Criteria are placed when each name stands once and in the list of its scope. Adding, setting and
removing an entry keep them placed, and no other name notices.
-/

namespace FacetSearch

theorem DocumentType.eq_of_name {dt : DocumentType} {p q : Parameter}
    (hp : p ∈ dt.definition.allParameters) (hq : q ∈ dt.definition.allParameters)
    (same : p.name = q.name) : p = q :=
  (Catalogue.isFor_catalogue dt "").eq_of_name hp hq same

namespace Criteria

open Entry (named? upsert erase)

variable {dt : DocumentType} {c c' : Criteria} {p : Parameter} {name removed value : String}
  {change : Option String → String} {e : Entry}

/-- Each name stands once, in the list of its scope. -/
structure IsPlaced (dt : DocumentType) (c : Criteria) : Prop where
  listed : ∀ e ∈ c.entries, e.parameter ∈ dt.definition.allParameters
  search : ∀ e ∈ c.search, e.parameter.scope ≠ .control
  control : ∀ e ∈ c.control, e.parameter.scope = .control
  searchOnce : (c.search.map Entry.name).Nodup
  controlOnce : (c.control.map Entry.name).Nodup

theorem mem_entries : e ∈ c.entries ↔ e ∈ c.search ∨ e ∈ c.control := List.mem_append

theorem entry?_eq (c : Criteria) (name : String) :
    c.entry? name = (named? name c.search).or (named? name c.control) := Entry.named?_append

theorem get?_congr (same : c.entry? name = c'.entry? name) : c.get? name = c'.get? name :=
  congrArg (Option.map Entry.value) same

theorem number?_congr (same : c.entry? name = c'.entry? name) : c.number? name = c'.number? name := by
  rw [number?, number?, get?_congr same]

theorem contains_iff : c.contains name = true ↔ ∃ value, c.get? name = some value := by
  simp only [contains, get?, Option.isSome_iff_exists, Option.map_eq_some_iff]
  constructor
  · rintro ⟨e, found⟩
    exact ⟨_, e, found, rfl⟩
  · rintro ⟨-, e, found, -⟩
    exact ⟨e, found⟩

theorem contains_eq_false_iff : c.contains name = false ↔ c.entry? name = none := by
  rw [contains, Option.isSome_eq_false_iff, Option.isNone_iff_eq_none]

/-! ### What a change leaves alone -/

@[simp]
theorem required_modifyFor (c : Criteria) (p : Parameter) (f : List Entry → List Entry) :
    (c.modifyFor p f).required = c.required := by
  rw [modifyFor]
  split
  · rfl
  · rfl

@[simp]
theorem required_remove (c : Criteria) (name : String) : (c.remove name).required = c.required := by
  rw [remove]
  split
  · rfl
  · rfl

theorem search_modifyFor (control : p.scope = .control) (f : List Entry → List Entry) :
    c.modifyFor p f = { c with control := f c.control } := if_pos control

theorem entry?_modifyFor_of_ne (other : name ≠ p.name) :
    entry? (c.modifyFor p (upsert p change)) name = c.entry? name := by
  rw [modifyFor, entry?_eq c]
  split
  · rw [entry?_eq, Entry.named?_upsert_of_ne other]
  · rw [entry?_eq, Entry.named?_upsert_of_ne other]

theorem entry?_remove_of_ne (other : name ≠ removed) : entry? (c.remove removed) name = c.entry? name := by
  rw [remove, entry?_eq c]
  split
  · rw [entry?_eq, Entry.named?_erase_of_ne other]
  · rw [entry?_eq, Entry.named?_erase_of_ne other]

theorem get?_modifyFor_of_ne (other : name ≠ p.name) :
    (c.modifyFor p (upsert p change)).get? name = c.get? name :=
  get?_congr (entry?_modifyFor_of_ne other)

theorem get?_remove_of_ne (other : name ≠ removed) : (c.remove removed).get? name = c.get? name :=
  get?_congr (entry?_remove_of_ne other)

theorem remove_of_search (found : named? name c.search = some e) :
    c.remove name = { c with search := erase name c.search } := by
  obtain ⟨member, same⟩ := Entry.named?_eq_some found
  exact if_pos (List.any_eq_true.mpr ⟨e, member, by simpa using same⟩)

theorem remove_of_unsearched (absent : named? name c.search = none) :
    c.remove name = { c with control := erase name c.control } := by
  refine if_neg fun present => ?_
  obtain ⟨e, member, same⟩ := List.any_eq_true.mp present
  exact Entry.named?_eq_none_iff.mp absent e member (by simpa using same)

theorem remove_of_absent (absent : c.entry? name = none) : c.remove name = c := by
  rw [entry?_eq, Option.or_eq_none_iff] at absent
  rw [remove_of_unsearched absent.1, Entry.erase_of_absent (Entry.named?_eq_none_iff.mp absent.2)]

theorem take_eq (c : Criteria) (name : String) : c.take name = (c.get? name, c.remove name) := by
  rw [take, Entry.extract?_eq, Entry.extract?_eq, get?, entry?_eq]
  cases search : named? name c.search with
  | some e => rw [remove_of_search search, Option.some_or, Option.map_some, Option.map_some]
  | none =>
    rw [remove_of_unsearched search, Option.none_or, Option.map_none]
    cases control : named? name c.control with
    | some e => rw [Option.map_some, Option.map_some]
    | none =>
      rw [Option.map_none, Option.map_none,
        Entry.erase_of_absent (Entry.named?_eq_none_iff.mp control)]

theorem merge_of_absent (absent : ∀ e ∈ c.entries, e.name ≠ p.name) :
    c.merge p value = c.modifyFor p (· ++ [⟨p, value⟩]) := by
  rw [merge, modifyFor, modifyFor]
  split
  · rw [Entry.upsert_of_absent fun e he => absent e (mem_entries.mpr (Or.inr he))]
  · rw [Entry.upsert_of_absent fun e he => absent e (mem_entries.mpr (Or.inl he))]

/-! ### What holds of every entry -/

theorem forall_modifyFor {P : Entry → Prop} (all : ∀ e ∈ c.entries, P e) (new : P ⟨p, change none⟩)
    (old : ∀ e ∈ c.entries, e.name = p.name → P { e with value := change (some e.value) }) :
    ∀ e ∈ (c.modifyFor p (upsert p change)).entries, P e := by
  intro e he
  rw [modifyFor] at he
  split at he
  · rcases mem_entries.mp he with he | he
    · exact all e (mem_entries.mpr (Or.inl he))
    · exact Entry.forall_upsert new (fun e he => old e (mem_entries.mpr (Or.inr he)))
        (fun e he => all e (mem_entries.mpr (Or.inr he))) e he
  · rcases mem_entries.mp he with he | he
    · exact Entry.forall_upsert new (fun e he => old e (mem_entries.mpr (Or.inl he)))
        (fun e he => all e (mem_entries.mpr (Or.inl he))) e he
    · exact all e (mem_entries.mpr (Or.inr he))

theorem forall_merge {P : Entry → Prop} (all : ∀ e ∈ c.entries, P e) (new : P ⟨p, value⟩)
    (old : ∀ e ∈ c.entries, e.name = p.name →
      P { e with value := e.value ++ p.operator.delimiter.toString ++ value }) :
    ∀ e ∈ (c.merge p value).entries, P e :=
  forall_modifyFor all new old

theorem forall_set {P : Entry → Prop} (all : ∀ e ∈ c.entries, P e) (new : P ⟨p, value⟩)
    (old : ∀ e ∈ c.entries, e.name = p.name → P { e with value := value }) :
    ∀ e ∈ (c.set p value).entries, P e :=
  forall_modifyFor all new old

theorem mem_of_mem_remove (h : e ∈ (c.remove name).entries) : e ∈ c.entries := by
  rw [remove] at h
  split at h
  · rcases mem_entries.mp h with h | h
    · exact mem_entries.mpr (Or.inl (Entry.erase_sublist.subset h))
    · exact mem_entries.mpr (Or.inr h)
  · rcases mem_entries.mp h with h | h
    · exact mem_entries.mpr (Or.inl h)
    · exact mem_entries.mpr (Or.inr (Entry.erase_sublist.subset h))

/-! ### Staying placed -/

theorem isPlaced_empty (required : List String) : IsPlaced dt { required } :=
  ⟨(fun _ he => absurd he List.not_mem_nil), (fun _ he => absurd he List.not_mem_nil),
    (fun _ he => absurd he List.not_mem_nil), List.nodup_nil, List.nodup_nil⟩

namespace IsPlaced

theorem modifyFor (placed : c.IsPlaced dt) (hp : p ∈ dt.definition.allParameters) :
    (c.modifyFor p (upsert p change)).IsPlaced dt := by
  have listed : ∀ e ∈ (c.modifyFor p (upsert p change)).entries,
      e.parameter ∈ dt.definition.allParameters :=
    forall_modifyFor placed.listed hp fun e he _ => placed.listed e he
  revert listed
  rw [Criteria.modifyFor]
  split
  · rename_i control
    intro listed
    exact ⟨listed, placed.search,
      Entry.forall_upsert control (fun e he _ => placed.control e he) placed.control,
      placed.searchOnce, Entry.nodup_upsert placed.controlOnce⟩
  · rename_i search
    intro listed
    exact ⟨listed, Entry.forall_upsert search (fun e he _ => placed.search e he) placed.search,
      placed.control, Entry.nodup_upsert placed.searchOnce, placed.controlOnce⟩

theorem remove (placed : c.IsPlaced dt) (name : String) : (c.remove name).IsPlaced dt := by
  have listed : ∀ e ∈ (c.remove name).entries, e.parameter ∈ dt.definition.allParameters :=
    fun e he => placed.listed e (mem_of_mem_remove he)
  revert listed
  rw [Criteria.remove]
  split
  · intro listed
    exact ⟨listed, fun e he => placed.search e (Entry.erase_sublist.subset he), placed.control,
      (Entry.erase_sublist.map Entry.name).nodup placed.searchOnce, placed.controlOnce⟩
  · intro listed
    exact ⟨listed, placed.search, fun e he => placed.control e (Entry.erase_sublist.subset he),
      placed.searchOnce, (Entry.erase_sublist.map Entry.name).nodup placed.controlOnce⟩

theorem map (placed : c.IsPlaced dt) {f : Entry → Entry} (kept : ∀ e, (f e).parameter = e.parameter) :
    IsPlaced dt { c with search := c.search.map f, control := c.control.map f } := by
  have names : ∀ es : List Entry, (es.map f).map Entry.name = es.map Entry.name := by
    intro es
    rw [List.map_map]
    exact List.map_congr_left fun e _ => congrArg Parameter.name (kept e)
  have each : ∀ (P : Parameter → Prop) {es : List Entry}, (∀ e ∈ es, P e.parameter) →
      ∀ e ∈ es.map f, P e.parameter := by
    intro P es all g hg
    obtain ⟨e, he, rfl⟩ := List.mem_map.mp hg
    rw [kept]
    exact all e he
  refine ⟨?_, each (·.scope ≠ .control) placed.search, each (·.scope = .control) placed.control, ?_, ?_⟩
  · intro e he
    rcases mem_entries.mp he with he | he
    · exact each _ (fun e he => placed.listed e (mem_entries.mpr (Or.inl he))) e he
    · exact each _ (fun e he => placed.listed e (mem_entries.mpr (Or.inr he))) e he
  · rw [names]
    exact placed.searchOnce
  · rw [names]
    exact placed.controlOnce

/-! ### Looking up what is placed -/

theorem apart (placed : c.IsPlaced dt) {e f : Entry} (he : e ∈ c.search) (hf : f ∈ c.control) :
    e.name ≠ f.name := by
  intro same
  have one := DocumentType.eq_of_name (placed.listed e (mem_entries.mpr (Or.inl he)))
    (placed.listed f (mem_entries.mpr (Or.inr hf))) same
  exact placed.search e he (one ▸ placed.control f hf)

theorem entriesOnce (placed : c.IsPlaced dt) : (c.entries.map Entry.name).Nodup := by
  rw [entries, List.map_append, List.nodup_append]
  refine ⟨placed.searchOnce, placed.controlOnce, ?_⟩
  intro a ha b hb
  obtain ⟨e, he, rfl⟩ := List.mem_map.mp ha
  obtain ⟨f, hf, rfl⟩ := List.mem_map.mp hb
  exact placed.apart he hf

theorem entry?_of_mem (placed : c.IsPlaced dt) (h : e ∈ c.entries) : c.entry? e.name = some e :=
  Entry.named?_of_mem placed.entriesOnce h

theorem parameter_of_entry? (placed : c.IsPlaced dt) (hp : p ∈ dt.definition.allParameters)
    (found : c.entry? p.name = some e) : e ∈ c.entries ∧ e.parameter = p := by
  have member := List.mem_of_find?_eq_some found
  have same : e.name = p.name := by simpa using List.find?_some found
  exact ⟨member, DocumentType.eq_of_name (placed.listed e member) hp same⟩

theorem exists_of_entry? (placed : c.IsPlaced dt) (found : c.entry? name = some e) :
    ∃ p ∈ dt.definition.allParameters, p.name = name := by
  have same : e.name = name := by simpa using List.find?_some found
  exact ⟨e.parameter, placed.listed e (List.mem_of_find?_eq_some found), same⟩

/-- What is said of entries by their names is said by the names of the parameters. -/
theorem forall_entry? (placed : c.IsPlaced dt) (placed' : c'.IsPlaced dt) {f : Option Entry → α}
    (same : ∀ p ∈ dt.definition.allParameters, f (c.entry? p.name) = f (c'.entry? p.name)) (name : String) :
    f (c.entry? name) = f (c'.entry? name) := by
  by_cases known : ∃ p ∈ dt.definition.allParameters, p.name = name
  · obtain ⟨p, hp, rfl⟩ := known
    exact same p hp
  · have absent : ∀ {b : Criteria}, b.IsPlaced dt → b.entry? name = none := by
      intro b listed
      rw [Option.eq_none_iff_forall_ne_some]
      exact fun e found => known (listed.exists_of_entry? found)
    rw [absent placed, absent placed']

theorem unsearched (placed : c.IsPlaced dt) (hp : p ∈ dt.definition.allParameters)
    (control : p.scope = .control) : named? p.name c.search = none := by
  rw [Entry.named?_eq_none_iff]
  intro e he same
  have one := DocumentType.eq_of_name (placed.listed e (mem_entries.mpr (Or.inl he))) hp same
  exact placed.search e he (one ▸ control)

theorem entry?_control (placed : c.IsPlaced dt) (hp : p ∈ dt.definition.allParameters)
    (control : p.scope = .control) : c.entry? p.name = named? p.name c.control := by
  rw [entry?_eq, placed.unsearched hp control, Option.none_or]

theorem entry?_search (placed : c.IsPlaced dt) (hp : p ∈ dt.definition.allParameters)
    (search : p.scope ≠ .control) : c.entry? p.name = named? p.name c.search := by
  have absent : named? p.name c.control = none := by
    rw [Entry.named?_eq_none_iff]
    intro e he same
    have one := DocumentType.eq_of_name (placed.listed e (mem_entries.mpr (Or.inr he))) hp same
    exact search (one ▸ placed.control e he)
  rw [entry?_eq, absent, Option.or_none]

/-! What holds of the entries of a list can be said without their order. -/

theorem forall_search {P : Entry → Prop} (placed : c.IsPlaced dt) : (∀ e ∈ c.search, P e) ↔
    ∀ p ∈ dt.definition.allParameters, p.scope ≠ .control → ∀ e, c.entry? p.name = some e → P e := by
  constructor
  · intro all p hp search e found
    rw [placed.entry?_search hp search] at found
    exact all e (Entry.named?_eq_some found).1
  · intro all e he
    have member : e ∈ c.entries := mem_entries.mpr (Or.inl he)
    exact all e.parameter (placed.listed e member) (placed.search e he) e (placed.entry?_of_mem member)

theorem forall_control {P : Entry → Prop} (placed : c.IsPlaced dt) : (∀ e ∈ c.control, P e) ↔
    ∀ p ∈ dt.definition.allParameters, p.scope = .control → ∀ e, c.entry? p.name = some e → P e := by
  constructor
  · intro all p hp control e found
    rw [placed.entry?_control hp control] at found
    exact all e (Entry.named?_eq_some found).1
  · intro all e he
    have member : e ∈ c.entries := mem_entries.mpr (Or.inr he)
    exact all e.parameter (placed.listed e member) (placed.control e he) e (placed.entry?_of_mem member)

theorem remove_control (placed : c.IsPlaced dt) (hp : p ∈ dt.definition.allParameters)
    (control : p.scope = .control) :
    c.remove p.name = { c with control := c.control.filter (·.name != p.name) } := by
  rw [remove_of_unsearched (placed.unsearched hp control), Entry.erase_eq_filter placed.controlOnce]

theorem entry?_remove_self (placed : c.IsPlaced dt) (name : String) :
    entry? (c.remove name) name = none := by
  cases search : named? name c.search with
  | some e =>
    have control : named? name c.control = none := by
      rw [Entry.named?_eq_none_iff]
      intro f hf same
      obtain ⟨member, own⟩ := Entry.named?_eq_some search
      exact placed.apart member hf (own.trans same.symm)
    rw [remove_of_search search, entry?_eq, Entry.named?_erase_self placed.searchOnce, control,
      Option.none_or]
  | none =>
    rw [remove_of_unsearched search, entry?_eq, search, Entry.named?_erase_self placed.controlOnce,
      Option.none_or]

theorem get?_modifyFor_self (placed : c.IsPlaced dt) (hp : p ∈ dt.definition.allParameters) :
    (c.modifyFor p (upsert p change)).get? p.name = some (change (c.get? p.name)) := by
  have placed' : (c.modifyFor p (upsert p change)).IsPlaced dt := placed.modifyFor hp
  rw [get?, get?]
  by_cases control : p.scope = .control
  · rw [placed'.entry?_control hp control, placed.entry?_control hp control, search_modifyFor control]
    exact Entry.map_value_named?_upsert_self
  · rw [placed'.entry?_search hp control, placed.entry?_search hp control, Criteria.modifyFor,
      if_neg control]
    exact Entry.map_value_named?_upsert_self

theorem entry?_modifyFor_self (placed : c.IsPlaced dt) (hp : p ∈ dt.definition.allParameters) :
    Criteria.entry? (c.modifyFor p (upsert p change)) p.name = some ⟨p, change (c.get? p.name)⟩ := by
  have stands : (c.modifyFor p (upsert p change)).get? p.name = some (change (c.get? p.name)) :=
    placed.get?_modifyFor_self hp
  obtain ⟨e, found, value⟩ := Option.map_eq_some_iff.mp stands
  have changed : (c.modifyFor p (upsert p change)).IsPlaced dt := placed.modifyFor hp
  obtain ⟨-, rfl⟩ := changed.parameter_of_entry? hp found
  rw [found, ← value]

theorem entry?_set_self (placed : c.IsPlaced dt) (hp : p ∈ dt.definition.allParameters) :
    Criteria.entry? (c.set p value) p.name = some ⟨p, value⟩ := placed.entry?_modifyFor_self hp

theorem get?_set_self (placed : c.IsPlaced dt) (hp : p ∈ dt.definition.allParameters) :
    (c.set p value).get? p.name = some value := by
  rw [get?, placed.entry?_set_self hp, Option.map_some]

theorem get?_merge_of_absent (placed : c.IsPlaced dt) (hp : p ∈ dt.definition.allParameters)
    (absent : c.entry? p.name = none) : (c.merge p value).get? p.name = some value := by
  rw [merge, placed.get?_modifyFor_self hp, get?, absent, Option.map_none]

theorem set_of_get? (placed : c.IsPlaced dt) (hp : p ∈ dt.definition.allParameters)
    (control : p.scope = .control) (stands : c.get? p.name = some value) : c.set p value = c := by
  rw [get?, placed.entry?_control hp control] at stands
  obtain ⟨e, found, rfl⟩ := Option.map_eq_some_iff.mp stands
  obtain ⟨member, same⟩ := Entry.named?_eq_some found
  have fixed : upsert p (fun _ => e.value) c.control = c.control := by
    apply Entry.upsert_eq_self ⟨e, member, same⟩
    intro f hf name
    have again := Entry.named?_of_mem placed.controlOnce hf
    rw [name, found] at again
    rw [Option.some.inj again]
  rw [set, search_modifyFor control, fixed]

end IsPlaced

end Criteria

end FacetSearch
