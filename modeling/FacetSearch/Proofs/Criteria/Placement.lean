import FacetSearch.Criteria

/-!
# Where entries stand

The two lists of criteria as ordered maps: each name stands once, what steers the presentation in one
list and the query in the other. Changing one entry leaves the order and every other name alone.
-/

namespace FacetSearch

namespace Entry

variable {p : Parameter} {change : Option String → String} {name : String} {es : List Entry} {e : Entry}

def named? (name : String) (es : List Entry) : Option Entry := es.find? (·.name == name)

theorem named?_eq_some (h : named? name es = some e) : e ∈ es ∧ e.name = name :=
  ⟨List.mem_of_find?_eq_some h, by simpa using List.find?_some h⟩

theorem named?_eq_none_iff : named? name es = none ↔ ∀ e ∈ es, e.name ≠ name := by
  simp [named?, List.find?_eq_none]

theorem named?_cons_self (rest : List Entry) : named? e.name (e :: rest) = some e := by
  simp [named?]

theorem named?_cons_of_ne (other : e.name ≠ name) (rest : List Entry) :
    named? name (e :: rest) = named? name rest := by
  simp [named?, other]

theorem named?_append {es' : List Entry} :
    named? name (es ++ es') = (named? name es).or (named? name es') := List.find?_append

theorem named?_of_mem (distinct : (es.map Entry.name).Nodup) (h : e ∈ es) :
    named? e.name es = some e := by
  induction es with
  | nil => cases h
  | cons f rest ih =>
    rw [List.map_cons, List.nodup_cons] at distinct
    rcases List.mem_cons.mp h with rfl | h
    · exact named?_cons_self rest
    · have other : f.name ≠ e.name := fun same => distinct.1 (same ▸ List.mem_map_of_mem h)
      rw [named?_cons_of_ne other]
      exact ih distinct.2 h

theorem named?_map {f : Entry → Entry} (kept : ∀ e, (f e).name = e.name) :
    named? name (es.map f) = (named? name es).map f := by
  induction es with
  | nil => rfl
  | cons e rest ih =>
    by_cases same : e.name = name
    · subst same
      rw [List.map_cons, ← kept e, named?_cons_self, kept e, named?_cons_self, Option.map_some]
    · rw [List.map_cons, named?_cons_of_ne (by rwa [kept]), named?_cons_of_ne same, ih]

/-! ### Changing an entry -/

theorem map_name_upsert : (upsert p change es).map Entry.name =
    if p.name ∈ es.map Entry.name then es.map Entry.name else es.map Entry.name ++ [p.name] := by
  induction es with
  | nil => rfl
  | cons e rest ih =>
    rw [upsert]
    by_cases same : e.name = p.name
    · have found : p.name ∈ (e :: rest).map Entry.name := by
        rw [← same]
        exact List.mem_map_of_mem List.mem_cons_self
      rw [if_pos same, if_pos found]
      rfl
    · rw [if_neg same, List.map_cons, ih, List.map_cons]
      by_cases found : p.name ∈ rest.map Entry.name
      · rw [if_pos found, if_pos (List.mem_cons_of_mem _ found)]
      · have absent : p.name ∉ e.name :: rest.map Entry.name := by
          intro member
          rcases List.mem_cons.mp member with here | there
          · exact same here.symm
          · exact found there
        rw [if_neg found, if_neg absent, List.cons_append]

theorem nodup_upsert (distinct : (es.map Entry.name).Nodup) :
    ((upsert p change es).map Entry.name).Nodup := by
  rw [map_name_upsert]
  split
  · exact distinct
  · rename_i absent
    rw [List.nodup_append]
    refine ⟨distinct, by simp, ?_⟩
    intro a ha b hb same
    rw [List.mem_singleton.mp hb] at same
    exact absent (same ▸ ha)

theorem forall_upsert {P : Entry → Prop} (new : P ⟨p, change none⟩)
    (old : ∀ e ∈ es, e.name = p.name → P { e with value := change (some e.value) })
    (all : ∀ e ∈ es, P e) : ∀ e ∈ upsert p change es, P e := by
  induction es with
  | nil =>
    intro e he
    rw [List.mem_singleton.mp he]
    exact new
  | cons f rest ih =>
    intro e he
    rw [upsert] at he
    split at he
    · rename_i same
      rcases List.mem_cons.mp he with rfl | he
      · exact old f List.mem_cons_self same
      · exact all e (List.mem_cons_of_mem f he)
    · rcases List.mem_cons.mp he with rfl | he
      · exact all e List.mem_cons_self
      · exact ih (fun g hg => old g (List.mem_cons_of_mem f hg))
          (fun g hg => all g (List.mem_cons_of_mem f hg)) e he

theorem upsert_of_absent (absent : ∀ e ∈ es, e.name ≠ p.name) :
    upsert p change es = es ++ [⟨p, change none⟩] := by
  induction es with
  | nil => rfl
  | cons e rest ih =>
    rw [upsert, if_neg (absent e List.mem_cons_self),
      ih fun f hf => absent f (List.mem_cons_of_mem e hf), List.cons_append]

theorem upsert_eq_map {value : String} (distinct : (es.map Entry.name).Nodup)
    (found : ∃ e ∈ es, e.name = p.name) : upsert p (fun _ => value) es =
      es.map fun e => if e.name = p.name then { e with value := value } else e := by
  induction es with
  | nil =>
    obtain ⟨e, he, -⟩ := found
    cases he
  | cons f rest ih =>
    rw [List.map_cons, List.nodup_cons] at distinct
    rw [upsert, List.map_cons]
    by_cases here : f.name = p.name
    · have others : ∀ e ∈ rest, (if e.name = p.name then { e with value := value } else e) = e := by
        intro e he
        rw [if_neg]
        intro same
        exact distinct.1 (here.trans same.symm ▸ List.mem_map_of_mem he)
      rw [if_pos here, if_pos here, (List.map_congr_left others).trans (List.map_id' rest)]
    · obtain ⟨e, he, same⟩ := found
      rcases List.mem_cons.mp he with rfl | he
      · exact absurd same here
      · rw [if_neg here, if_neg here, ih distinct.2 ⟨e, he, same⟩]

theorem upsert_append (found : ∃ e ∈ es, e.name = p.name) (others : List Entry) :
    upsert p change (es ++ others) = upsert p change es ++ others := by
  induction es with
  | nil =>
    obtain ⟨e, he, -⟩ := found
    cases he
  | cons f rest ih =>
    rw [List.cons_append, upsert, upsert]
    by_cases here : f.name = p.name
    · rw [if_pos here, if_pos here, List.cons_append]
    · obtain ⟨e, he, same⟩ := found
      rcases List.mem_cons.mp he with rfl | he
      · exact absurd same here
      · rw [if_neg here, if_neg here, ih ⟨e, he, same⟩, List.cons_append]

theorem upsert_eq_self (found : ∃ e ∈ es, e.name = p.name)
    (same : ∀ e ∈ es, e.name = p.name → change (some e.value) = e.value) :
    upsert p change es = es := by
  induction es with
  | nil =>
    obtain ⟨e, he, -⟩ := found
    cases he
  | cons f rest ih =>
    rw [upsert]
    split
    · rename_i here
      rw [same f List.mem_cons_self here]
    · rename_i other
      obtain ⟨e, he, name⟩ := found
      rcases List.mem_cons.mp he with rfl | he
      · exact absurd name other
      · rw [ih ⟨e, he, name⟩ fun g hg => same g (List.mem_cons_of_mem f hg)]

theorem named?_upsert_of_ne (other : name ≠ p.name) :
    named? name (upsert p change es) = named? name es := by
  induction es with
  | nil => simp [upsert, named?, Entry.name, Ne.symm other]
  | cons e rest ih =>
    rw [upsert]
    by_cases here : e.name = p.name
    · have apart : e.name ≠ name := fun same => other (same.symm.trans here)
      have changed : Entry.name { e with value := change (some e.value) } ≠ name := apart
      rw [if_pos here, named?_cons_of_ne changed, named?_cons_of_ne apart]
    · rw [if_neg here]
      by_cases same : e.name = name
      · subst same
        rw [named?_cons_self, named?_cons_self]
      · rw [named?_cons_of_ne same, named?_cons_of_ne same, ih]

theorem named?_upsert_self : named? p.name (upsert p change es) = some
    (((named? p.name es).map fun e => { e with value := change (some e.value) }).getD
      ⟨p, change none⟩) := by
  induction es with
  | nil => simp [upsert, named?, Entry.name]
  | cons e rest ih =>
    rw [upsert]
    by_cases here : e.name = p.name
    · rw [if_pos here, ← here, named?_cons_self]
      exact named?_cons_self (e := { e with value := change (some e.value) }) rest
    · rw [if_neg here, named?_cons_of_ne here, named?_cons_of_ne here, ih]

theorem map_value_named?_upsert_self : (named? p.name (upsert p change es)).map Entry.value =
    some (change ((named? p.name es).map Entry.value)) := by
  rw [named?_upsert_self]
  cases named? p.name es with
  | none => rfl
  | some e => rfl

/-! ### Dropping an entry -/

theorem erase_sublist : (erase name es).Sublist es := by
  induction es with
  | nil => exact List.Sublist.refl []
  | cons e rest ih =>
    rw [erase]
    split
    · exact List.sublist_cons_self e rest
    · exact ih.cons_cons e

theorem erase_of_absent (absent : ∀ e ∈ es, e.name ≠ name) : erase name es = es := by
  induction es with
  | nil => rfl
  | cons e rest ih =>
    rw [erase, if_neg (absent e List.mem_cons_self),
      ih fun f hf => absent f (List.mem_cons_of_mem e hf)]

theorem erase_eq_filter (distinct : (es.map Entry.name).Nodup) :
    erase name es = es.filter (·.name != name) := by
  induction es with
  | nil => rfl
  | cons e rest ih =>
    rw [List.map_cons, List.nodup_cons] at distinct
    rw [erase]
    by_cases here : e.name = name
    · have absent : ∀ f ∈ rest, (f.name != name) = true := by
        intro f hf
        refine bne_iff_ne.mpr fun same => distinct.1 ?_
        rw [here, ← same]
        exact List.mem_map_of_mem hf
      rw [if_pos here, List.filter_cons_of_neg (by simp [here]), List.filter_eq_self.mpr absent]
    · rw [if_neg here, List.filter_cons_of_pos (by simpa using here), ih distinct.2]

theorem named?_erase_of_ne {other : String} (ne : name ≠ other) :
    named? name (erase other es) = named? name es := by
  induction es with
  | nil => rfl
  | cons e rest ih =>
    rw [erase]
    by_cases here : e.name = other
    · rw [if_pos here, named?_cons_of_ne (by rw [here]; exact Ne.symm ne)]
    · rw [if_neg here]
      by_cases same : e.name = name
      · subst same
        rw [named?_cons_self, named?_cons_self]
      · rw [named?_cons_of_ne same, named?_cons_of_ne same, ih]

theorem named?_erase_self (distinct : (es.map Entry.name).Nodup) : named? name (erase name es) = none := by
  rw [erase_eq_filter distinct, named?_eq_none_iff]
  exact fun e he => bne_iff_ne.mp (List.mem_filter.mp he).2

theorem extract?_eq : extract? name es =
    (named? name es).map fun e => (e.value, erase name es) := by
  induction es with
  | nil => rfl
  | cons e rest ih =>
    rw [extract?, erase]
    by_cases here : e.name = name
    · rw [if_pos here, if_pos here, ← here, named?_cons_self, Option.map_some]
    · rw [if_neg here, if_neg here, named?_cons_of_ne here, ih, Option.map_map]
      rfl

end Entry

end FacetSearch
