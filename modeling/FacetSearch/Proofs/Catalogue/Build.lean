import FacetSearch.Service.Search

/-!
# Built catalogues

The catalogue that `Catalogue.build` makes of a definition, written out, and the catalogues that a
service is built of.
-/

namespace FacetSearch

theorem bind_ok {x : Except ε α} {f : α → Except ε β} {b : β} (h : x >>= f = .ok b) :
    ∃ a, x = .ok a ∧ f a = .ok b := by
  cases x with
  | error e => cases h
  | ok a => exact ⟨a, rfl, h⟩

/-- Whether a computation returns something that passes a check. -/
def passes (outcome : Except ε α) (check : α → Bool) : Bool :=
  match outcome with
  | .error _ => false
  | .ok a => check a

theorem exists_of_passes {outcome : Except ε α} {check : α → Bool}
    (h : passes outcome check = true) : ∃ a, outcome = .ok a ∧ check a = true := by
  cases outcome with
  | error e => cases h
  | ok a => exact ⟨a, rfl, h⟩

theorem mapM_eq_ok {f : α → Except ε β} {g : α → β} {xs : List α}
    (each : ∀ x ∈ xs, f x = .ok (g x)) : xs.mapM f = .ok (xs.map g) := by
  induction xs with
  | nil => rfl
  | cons x xs ih =>
    rw [List.mapM_cons, each x List.mem_cons_self,
      ih fun z hz => each z (List.mem_cons_of_mem x hz)]
    rfl

/-! ### The catalogue of a definition -/

/-- `wholeAnyCase?`, reading the characters where they stand. -/
def Pattern.spelled? (s : String) : Option Pattern :=
  (("(?i)^(?:".toList ++ s.toList ++ ")$".toList).foldlM Reader.step {}).bind fun r =>
    match r.reading, r.groups with
    | .plain, [g] => some g.close
    | _, _ => none

theorem Pattern.wholeAnyCase?_eq (s : String) : wholeAnyCase? s = spelled? s := by
  unfold wholeAnyCase? parse?
  rw [String.toList_append, String.toList_append]
  rfl

namespace Definition

-- A pattern that cannot be read is taken for one that nothing matches, so that each pattern is read
-- only where a name or a value is compared with it.
def spellings (d : Definition) : List (Pattern × Parameter) :=
  d.allParameters.filterMap fun p =>
    if p.scope = .internal then none else some ((Pattern.spelled? p.spelling).getD .nothing, p)

def valuePatterns (d : Definition) : List (String × Pattern) :=
  d.allParameters.map fun p => (p.name, (Pattern.parse? p.elementPattern).getD .nothing)

def sortTable (d : Definition) : SortTable :=
  ⟨d.sortKeys.map fun k => ((Pattern.spelled? k.spelling).getD .nothing, k)⟩

def catalogue (d : Definition) (apiHost : String) : Catalogue :=
  { definition := d, rules := { defaultSize := d.defaultSize, apiHost }, spellings := d.spellings,
    valuePatterns := d.valuePatterns, sorts := d.sortTable }

/-- Everything that a catalogue is built of can be read and resolved. -/
structure IsComplete (d : Definition) : Prop where
  parameters : ∀ e ∈ d.spellings, e.1 ≠ .nothing
  values : ∀ p ∈ d.allParameters, (Pattern.parse? p.elementPattern).isSome = true
  keys : ∀ e ∈ d.sortTable.entries, e.1 ≠ .nothing
  references : ∀ name ∈ d.references, (d.parameter? name).isSome = true
  order : (d.sortTable.parse d.defaultSort none).isOk = true

theorem wholeAnyCase?_of_ne {s : String} (read : (Pattern.spelled? s).getD .nothing ≠ .nothing) :
    Pattern.wholeAnyCase? s = some ((Pattern.spelled? s).getD .nothing) := by
  rw [Pattern.wholeAnyCase?_eq]
  cases outcome : Pattern.spelled? s with
  | some p => rfl
  | none =>
    rw [outcome] at read
    exact absurd rfl read

theorem IsComplete.build_eq {d : Definition} (complete : d.IsComplete) (apiHost : String) :
    Catalogue.build d apiHost = .ok (d.catalogue apiHost) := by
  have read : d.allParameters.mapM Catalogue.readParameter = .ok (d.allParameters.map fun p =>
      (if p.scope = .internal then none else some ((Pattern.spelled? p.spelling).getD .nothing, p),
        (p.name, (Pattern.parse? p.elementPattern).getD .nothing))) := by
    refine mapM_eq_ok fun p hp => ?_
    obtain ⟨value, denoted⟩ := Option.isSome_iff_exists.mp (complete.values p hp)
    unfold Catalogue.readParameter
    rw [denoted]
    by_cases internal : p.scope = .internal
    · rw [if_pos internal, if_pos internal]
      rfl
    · have member : ((Pattern.spelled? p.spelling).getD .nothing, p) ∈ d.spellings :=
        List.mem_filterMap.mpr ⟨p, hp, if_neg internal⟩
      rw [if_neg internal, if_neg internal, wholeAnyCase?_of_ne (complete.parameters _ member)]
      rfl
  have sorted : d.sortKeys.mapM Catalogue.readSortKey = .ok d.sortTable.entries := by
    refine mapM_eq_ok fun k hk => ?_
    unfold Catalogue.readSortKey
    rw [wholeAnyCase?_of_ne (complete.keys _ (List.mem_map.mpr ⟨k, hk, rfl⟩))]
    rfl
  have found : (d.references.find? fun name => (d.parameter? name).isNone) = none := by
    refine List.find?_eq_none.mpr fun name hn => ?_
    simpa [Option.isSome_iff_ne_none] using complete.references name hn
  unfold Catalogue.build
  rw [read, sorted]
  simp only [bind, Except.bind, found, pure, Except.pure]
  cases parsed : SortTable.parse ⟨d.sortTable.entries⟩ d.defaultSort none with
  | error offending =>
    have resolved := complete.order
    rw [show d.sortTable = ⟨d.sortTable.entries⟩ from rfl, parsed] at resolved
    cases resolved
  | ok directives =>
    simp only [List.filterMap_map, List.map_map]
    rfl

end Definition

namespace Service

end Service
end FacetSearch
